import ChapterTex.Failure
import ChapterTex.Record

/-!
A container of services. Each key has a factory, which needs the services of other keys; a service
is built when it is first asked for and kept until its key is registered again.
-/
namespace ChapterTex

/-- A service that was built, with its serial number and the services it was built from. -/
inductive Service where
  | built (name : String) (serial : Nat) (parts : List Service)
deriving Repr

/-- The name of a service and the keys of the services that it needs, in order. -/
structure Factory where
  name : String
  needs : List String
deriving Repr, DecidableEq

structure Container where
  factories : Record Factory := []
  services : Record Service := []
  /-- The number of services built so far. -/
  count : Nat := 0
deriving Repr

namespace Service

mutual

def describe : Service → String
  | built name serial parts => name ++ "#" ++ toString serial ++ "(" ++ describeAll parts ++ ")"

def describeAll : List Service → String
  | [] => ""
  | [s] => describe s
  | s :: rest => describe s ++ "," ++ describeAll rest

end

end Service

namespace Container

/-- Registers a factory, and forgets the service that was kept under its key. -/
def register (c : Container) (key : String) (factory : Factory) : Container :=
  { c with
    factories := c.factories.put key factory
    services := c.services.filter fun s => s.1 != key }

/-- Resolves keys one after the other, up to the first failure. What was built before it is kept. -/
def resolveAll (resolve : String → Container → Except Failure Service × Container) :
    List String → Container → Except Failure (List Service) × Container
  | [], c => (.ok [], c)
  | key :: rest, c =>
    match resolve key c with
    | (.error e, c) => (.error e, c)
    | (.ok service, c) =>
      match resolveAll resolve rest c with
      | (.error e, c) => (.error e, c)
      | (.ok services, c) => (.ok (service :: services), c)

/-- Resolves a key through chains of at most `depth` needs. -/
def resolveWithin : Nat → String → Container → Except Failure Service × Container
  | 0, _, c => (.error .circular, c)
  | depth + 1, key, c =>
    match c.services.get? key with
    | some service => (.ok service, c)
    | none =>
      match c.factories.get? key with
      | none => (.error (.unregistered key), c)
      | some factory =>
        match resolveAll (resolveWithin depth) factory.needs c with
        | (.error e, c) => (.error e, c)
        | (.ok parts, c) =>
          let service := Service.built factory.name (c.count + 1) parts
          (.ok service,
            { c with count := c.count + 1, services := c.services.put key service })

/-- The service of a key. A chain of needs without repetition is no longer than the number of
factories, and its end may be a key that has none. -/
def resolve (c : Container) (key : String) : Except Failure Service × Container :=
  resolveWithin (c.factories.length + 2) key c

end Container
end ChapterTex
