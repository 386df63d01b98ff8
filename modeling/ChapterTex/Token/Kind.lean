import ChapterTex.Datum.Display
import ChapterTex.Failure

/-!
The vocabulary of token kinds. It is closed: there is a rule for every kind and for no other name.
-/
namespace ChapterTex

inductive TokenKind where
  | paragraphOpen | paragraphClose
  | headingOpen | headingClose
  | bulletListOpen | bulletListClose
  | orderedListOpen | orderedListClose
  | listItemOpen | listItemClose
  | tableOpen | tableClose
  | theadOpen | theadClose
  | tbodyOpen | tbodyClose
  | trOpen | trClose
  | thOpen | thClose
  | tdOpen | tdClose
  | fence | codeInline
  | strongOpen | strongClose
  | emOpen | emClose
  | subOpen | subClose
  | supOpen | supClose
  | linkOpen | linkClose
  | inline | text | hardbreak | softbreak
  | metaIndex | metaIndexsee | metaFigure
  | metaLatexOpen | metaLatexClose
  | metaQuoteOpen | metaQuoteClose
  | metaHintOpen | metaHintClose
deriving Repr, DecidableEq, Inhabited

namespace TokenKind

def all : List TokenKind :=
  [paragraphOpen, paragraphClose, headingOpen, headingClose, bulletListOpen, bulletListClose,
    orderedListOpen, orderedListClose, listItemOpen, listItemClose, tableOpen, tableClose,
    theadOpen, theadClose, tbodyOpen, tbodyClose, trOpen, trClose, thOpen, thClose, tdOpen,
    tdClose, fence, codeInline, strongOpen, strongClose, emOpen, emClose, subOpen, subClose,
    supOpen, supClose, linkOpen, linkClose, inline, text, hardbreak, softbreak, metaIndex,
    metaIndexsee, metaFigure, metaLatexOpen, metaLatexClose, metaQuoteOpen, metaQuoteClose,
    metaHintOpen, metaHintClose]

/-- The name of a kind in serialized tokens. -/
def name : TokenKind → String
  | paragraphOpen => "paragraph_open"
  | paragraphClose => "paragraph_close"
  | headingOpen => "heading_open"
  | headingClose => "heading_close"
  | bulletListOpen => "bullet_list_open"
  | bulletListClose => "bullet_list_close"
  | orderedListOpen => "ordered_list_open"
  | orderedListClose => "ordered_list_close"
  | listItemOpen => "list_item_open"
  | listItemClose => "list_item_close"
  | tableOpen => "table_open"
  | tableClose => "table_close"
  | theadOpen => "thead_open"
  | theadClose => "thead_close"
  | tbodyOpen => "tbody_open"
  | tbodyClose => "tbody_close"
  | trOpen => "tr_open"
  | trClose => "tr_close"
  | thOpen => "th_open"
  | thClose => "th_close"
  | tdOpen => "td_open"
  | tdClose => "td_close"
  | fence => "fence"
  | codeInline => "code_inline"
  | strongOpen => "strong_open"
  | strongClose => "strong_close"
  | emOpen => "em_open"
  | emClose => "em_close"
  | subOpen => "sub_open"
  | subClose => "sub_close"
  | supOpen => "sup_open"
  | supClose => "sup_close"
  | linkOpen => "link_open"
  | linkClose => "link_close"
  | inline => "inline"
  | text => "text"
  | hardbreak => "hardbreak"
  | softbreak => "softbreak"
  | metaIndex => "meta_index"
  | metaIndexsee => "meta_indexsee"
  | metaFigure => "meta_figure"
  | metaLatexOpen => "meta_latex_open"
  | metaLatexClose => "meta_latex_close"
  | metaQuoteOpen => "meta_quote_open"
  | metaQuoteClose => "meta_quote_close"
  | metaHintOpen => "meta_hint_open"
  | metaHintClose => "meta_hint_close"

def ofName? (s : String) : Option TokenKind := all.find? fun k => k.name == s

theorem ofName?_name (k : TokenKind) : ofName? k.name = some k := by
  cases k <;> decide

theorem name_of_ofName? {s : String} {k : TokenKind} (h : ofName? s = some k) : k.name = s := by
  simpa using List.find?_some h

/-- The kind that a value names. Only texts name a kind. -/
def ofDatum (d : Datum) : Except Failure TokenKind :=
  match d.text?.bind ofName? with
  | some kind => .ok kind
  | none => .error (.unknownToken d.display)

def isCellOpen : TokenKind → Bool
  | tdOpen | thOpen => true
  | _ => false

def isCellClose : TokenKind → Bool
  | tdClose | thClose => true
  | _ => false

end TokenKind
end ChapterTex
