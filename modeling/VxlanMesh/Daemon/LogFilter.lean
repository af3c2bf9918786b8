/-
  VxlanMesh.Daemon.LogFilter
  ────────────────────────────────
  **WHICH EVENTS ARE LOGGED.**

  A filter is a list of directives separated by commas.  A directive has a
  level and may name a target, a span and fields:

      info    overlaymgrd=debug    mesh[sync]=warn    [\x7bsignal\x7d]=trace

  Directives that name no span decide about events: of those that apply to
  an event the most specific one counts, and the event is logged if it is
  severe enough.  A filter without directives lets errors through.
-/
import VxlanMesh.KeyedTable
import VxlanMesh.Numeral.Decimal
import VxlanMesh.Text.Blank
import VxlanMesh.Text.Pattern

namespace VxlanMesh.Daemon

/-! ## §1. Levels and events. -/

/-- How severe an event is. -/
inductive LogLevel where
  | error | warn | info | debug | trace
  deriving Repr, DecidableEq

namespace LogLevel

/-- The rank among the levels; the most severe has the lowest. -/
def rank : LogLevel → Nat
  | error => 1
  | warn => 2
  | info => 3
  | debug => 4
  | trace => 5

/-- The name in the log. -/
def name : LogLevel → String
  | error => "ERROR"
  | warn => "WARN"
  | info => "INFO"
  | debug => "DEBUG"
  | trace => "TRACE"

end LogLevel

/-- An event that may be logged. -/
structure LogEvent where
  target : String
  level : LogLevel
  message : String
  /-- The fields beside the message. -/
  fields : List (String × String) := []
  deriving Repr, DecidableEq

namespace LogEvent

/-- The line of the event in the log. -/
def line (event : LogEvent) : String :=
  " ".intercalate (event.level.name :: event.message ::
    event.fields.map fun (field, value) => field ++ "=" ++ value)

/-- The event has a field of that name. -/
def hasField (event : LogEvent) (field : String) : Bool :=
  field == "message" || event.fields.any (·.1 == field)

end LogEvent

/-! ## §2. Directives. -/

/-- A directive of a filter; its threshold is the rank of the least severe level that it lets
through, and zero lets nothing through. -/
structure Directive where
  target : Option (List Char) := none
  span : Option (List Char) := none
  fields : List (List Char) := []
  threshold : Nat := LogLevel.trace.rank
  deriving Repr, DecidableEq

/-- The threshold that a level name or a digit stands for. -/
def threshold? (text : List Char) : Option Nat :=
  match Numeral.readBounded? LogLevel.trace.rank text with
  | some n => some n
  | none => match String.ofList (text.map Char.toLower) with
    | "off" => some 0
    | "error" => some LogLevel.error.rank
    | "warn" => some LogLevel.warn.rank
    | "info" => some LogLevel.info.rank
    | "debug" => some LogLevel.debug.rank
    | "trace" => some LogLevel.trace.rank
    | _ => none

/-- A directive may begin with this character; every character beyond ASCII counts as a
letter. -/
def startsDirective (c : Char) : Bool :=
  c.isAlphanum || c = '-' || c = ':' || c = '_' || 0x80 ≤ c.toNat

/-- What is being read of a directive, and where that part begins. -/
inductive DirectivePart where
  | start
  /-- A level or a target. -/
  | lone (first : Nat)
  | span (first : Nat)
  | field (first : Nat)
  | afterFields
  | afterSpan
  | level (first : Nat)
  deriving Repr, DecidableEq

/-- The characters from one place up to another. -/
def slice (text : List Char) (first last : Nat) : List Char := (text.take last).drop first

/-- Take the character at a place into a directive. -/
def Directive.push (text : List Char) (d : Directive) (part : DirectivePart) (place : Nat)
    (c : Char) : Option (Directive × DirectivePart) :=
  match part with
  | .start =>
      if c = '[' then some (d, .span (place + 1))
      else if startsDirective c then some (d, .lone place) else none
  | .lone first =>
      let target := some (slice text first place)
      if c = '=' then some ({ d with target }, .level (place + 1))
      else if c = '[' then some ({ d with target }, .span (place + 1))
      else some (d, part)
  | .span first =>
      let span := slice text first place
      if c = ']' then some ({ d with span := some span }, .afterSpan)
      else if c = '\x7b' then
        some ({ d with span := if span.isEmpty then none else some span }, .field (place + 1))
      else some (d, part)
  | .field first =>
      let field := slice text first place
      if c = '\x7d' then
        if field.isEmpty then none
        else some ({ d with fields := d.fields ++ [field] }, .afterFields)
      else some (d, part)
  | .afterFields => if c = ']' then some (d, .afterSpan) else none
  | .afterSpan => if c = '=' then some (d, .level (place + 1)) else none
  | .level _ => some (d, part)

/-- Take the end of the text into a directive. -/
def Directive.finish (text : List Char) (d : Directive) : DirectivePart → Option Directive
  | .lone first =>
      match threshold? (text.drop first) with
      | some threshold => some { d with threshold }
      | none => some { d with target := some (text.drop first) }
  | .level first =>
      if (text.drop first).isEmpty then some d
      else (threshold? (text.drop first)).map fun threshold => { d with threshold }
  | .afterSpan => some d
  | _ => none

/-- Read characters into a directive, the first of which is at a place. -/
def readDirective (text : List Char) :
    Directive → DirectivePart → Nat → List Char → Option Directive
  | d, part, _, [] => d.finish text part
  | d, part, place, c :: cs =>
      (d.push text part place c).bind fun (d, part) => readDirective text d part (place + 1) cs

/-- The directive of a text.  Blanks at the ends do not count as characters of the directive,
but its parts are cut out of the text as it stands. -/
def Directive.ofText? (text : List Char) : Option Directive :=
  readDirective text {} .start 0 (Text.trimChars text)

namespace Directive

/-- The directive decides about events: it names no span and asks for no value of a field. -/
def decides (d : Directive) : Bool :=
  d.span.isNone && d.fields.all (!·.contains '=')

/-- The directive applies to an event: the target begins as it says, and the fields are
there. -/
def applies (d : Directive) (event : LogEvent) : Bool :=
  ((d.target.map fun target => target.isPrefixOf event.target.toList).getD true)
    && d.fields.all fun field => event.hasField (String.ofList field)

/-- How specific a directive is: the bytes of its target, then the number of its fields. -/
def specificity (d : Directive) : Nat × Nat :=
  ((d.target.map fun target => (String.ofList target).utf8ByteSize + 1).getD 0, d.fields.length)

/-- One directive counts before another: it is more specific, or it comes later and is as
specific. -/
def isBefore (a b : Directive) : Bool :=
  b.specificity.1 < a.specificity.1
    || (b.specificity.1 = a.specificity.1 && b.specificity.2 ≤ a.specificity.2)

end Directive

/-! ## §3. Filters. -/

/-- A filter. -/
structure LogFilter where
  directives : List Directive
  deriving Repr, DecidableEq

namespace LogFilter

/-- The filter that a text describes. -/
def ofText? (text : String) : Option LogFilter := do
  let parts := (Text.pieces ',' text.toList).filter (!·.isEmpty)
  return ⟨← parts.mapM Directive.ofText?⟩

/-- The directive that decides about an event. -/
def deciding? (filter : LogFilter) (event : LogEvent) : Option Directive :=
  (filter.directives.filter fun d => d.decides && d.applies event).foldl
    (fun best d => match best with
      | none => some d
      | some other => some (if d.isBefore other then d else other)) none

/-- The event is logged. -/
def lets (filter : LogFilter) (event : LogEvent) : Bool :=
  -- Nothing was asked for.
  if filter.directives.isEmpty then event.level == .error
  else match filter.deciding? event with
    | some d => event.level.rank ≤ d.threshold
    | none => false

end LogFilter

end VxlanMesh.Daemon
