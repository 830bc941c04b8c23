import TypedFormat.Rendering
import TypedFormat.Template

/-!
# Formatting

A template is rendered segment by segment against a list of arguments. The `Rendition` keeps
what was rendered before a failure; `format` gives the whole text or the failure. A template can
also be rendered onto a text that is there already (`Template.renderOnto`). All this is about calls
that return, which they do unless they come to a number that cannot be shown (`formatReturns`).
-/

namespace TypedFormat

/-- What a run over a template produced: the text, and the failure that ended it, if any. -/
structure Rendition where
  text : List Char
  failure? : Option Failure
deriving DecidableEq

namespace Rendition

/-- Puts text in front of a rendition. -/
def prepend (text : List Char) (rendition : Rendition) : Rendition :=
  { rendition with text := text ++ rendition.text }

/-- The whole text, if nothing failed. -/
def result (rendition : Rendition) : Except Failure (List Char) :=
  match rendition.failure? with
  | none         => .ok rendition.text
  | some failure => .error failure

end Rendition

/-- Renders one segment and draws what it needs. -/
def Segment.render (policy : Policy) : Segment → Drawing (List Char)
  | .literal text         => pure text
  | .percent              => pure ['%']
  | .directive offset _ d => do
    let settled ← d.settle policy offset
    match settled.render policy offset with
    | .ok text       => pure text
    | .error failure => throw failure

/-- Renders segments in order until one fails; `fault` is what ends them otherwise. -/
def Segment.renderAll (policy : Policy) (fault : Option Failure) :
    List Segment → Supply → Rendition
  | [],              _      => ⟨[], fault⟩
  | segment :: rest, supply =>
    match segment.render policy supply with
    | .ok text supply    => (renderAll policy fault rest supply).prepend text
    | .error failure _   => ⟨[], some failure⟩

/-- Renders a template against arguments. -/
def Template.render (policy : Policy) (template : Template) (arguments : List Argument) :
    Rendition :=
  Segment.renderAll policy template.fault template.segments (.ofList arguments)

/-- Renders segments in order, each at the end of what is written, until one fails. What was
written by then stays. -/
def Segment.renderAllOnto (policy : Policy) (fault : Option Failure) :
    List Segment → Supply → List Char → Rendition
  | [],              _,      written => ⟨written, fault⟩
  | segment :: rest, supply, written =>
    match segment.render policy supply with
    | .ok text supply    => renderAllOnto policy fault rest supply (written ++ text)
    | .error failure _   => ⟨written, some failure⟩

/-- Renders a template against arguments, at the end of what is written. -/
def Template.renderOnto (policy : Policy) (template : Template) (arguments : List Argument)
    (written : List Char) : Rendition :=
  Segment.renderAllOnto policy template.fault template.segments (.ofList arguments) written

/-! ### Calls that return -/

/-- Whether a segment can be rendered at all: a directive shows no number that cannot be shown. -/
def Segment.returns (policy : Policy) (supply : Supply) : Segment → Bool
  | .literal _ | .percent => true
  | .directive offset _ d =>
    match d.settle policy offset supply with
    | .ok settled _ => settled.canShow
    | .error _ _    => true

/-- Whether all segments can be rendered that a run over them comes to. -/
def Segment.allReturn (policy : Policy) : List Segment → Supply → Bool
  | [],              _      => true
  | segment :: rest, supply =>
    segment.returns policy supply &&
      match segment.render policy supply with
      | .ok _ supply => allReturn policy rest supply
      | .error _ _   => true

/-- Whether rendering a template against arguments returns. -/
def Template.returns (policy : Policy) (template : Template) (arguments : List Argument) : Bool :=
  Segment.allReturn policy template.segments (.ofList arguments)

/-- Whether a call returns. -/
def formatReturns (template : String) (arguments : List Argument) (policy : Policy := .strict) :
    Bool :=
  (Template.ofText template.toList).returns policy arguments

/-! ### Texts -/

/-- The text of a template with its arguments, as characters. -/
def formatChars (policy : Policy) (template : List Char) (arguments : List Argument) :
    Except Failure (List Char) :=
  ((Template.ofText template).render policy arguments).result

/-- The text of a template with its arguments. Without a policy, a call is strict. -/
def format (template : String) (arguments : List Argument) (policy : Policy := .strict) :
    Except Failure String :=
  (formatChars policy template.toList arguments).map String.ofList

/-- The text of a template with its arguments, as a line. -/
def formatLine (template : String) (arguments : List Argument) (policy : Policy := .strict) :
    Except Failure String :=
  (format template arguments policy).map (·.push '\n')

end TypedFormat
