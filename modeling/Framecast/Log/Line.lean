import Framecast.Decimal.Numeral
import Framecast.Text.Quoted

/-!
# Log lines

A line says which part of the program speaks, how important it is, and within which spans of work it
was said. `LogLine.render` writes it with the spans outermost first.
-/

namespace Framecast

/-- How important a line is. -/
inductive Level
  | debug
  | info
  | warn
  | error
deriving DecidableEq, Repr

/-- The level by name. -/
def Level.name : Level → String
  | .debug => "DEBUG"
  | .info => "INFO"
  | .warn => "WARN"
  | .error => "ERROR"

/-- The part of the program that speaks. -/
inductive Speaker
  | device
  | plan
  | binding
  | publishing
  | draining
  | session
  | launching
  | engine
  | source
deriving DecidableEq, Repr

/-- The speaker by name. -/
def Speaker.name : Speaker → String
  | .device => "nvstream_gpu::context"
  | .plan => "nvstream_encoder::config"
  | .binding => "nvstream_encoder::binder"
  | .publishing => "nvstream_mux::publisher"
  | .draining => "nvstream_mux::drain"
  | .session => "nvstream_engine::session"
  | .launching => "nvstream_engine::launcher"
  | .engine => "nvstream_engine::orchestrator"
  | .source => "nvstream_capture::source"

/-- The value of a field. -/
inductive FieldValue
  /-- Written as it is. -/
  | plain (s : String)
  /-- Written in quotes. -/
  | quoted (s : String)
  | int (z : Int)
  | bool (b : Bool)
  /-- A number of seconds, widened to double precision. -/
  | seconds (x : Float32)
deriving Repr

/-- A natural number as a field. -/
def FieldValue.nat (n : Nat) : FieldValue := .int n

/-- The text of a double-precision number: its shortest decimal, or a word. -/
def floatText (x : Float) : String :=
  match Binary.ofFloat x with
  | .nan => "NaN"
  | .infinite negative => if negative then "-inf" else "inf"
  | b => ((Numeral.Style.log.shortest? b).map Numeral.text).getD ""

/-- The value in a line. -/
def FieldValue.text : FieldValue → String
  | plain s => s
  | quoted s => quoteForLog s
  | int z => toString z
  | bool b => toString b
  | seconds x => floatText x.toFloat

/-- A named value. -/
structure Field where
  name : String
  value : FieldValue
deriving Repr

/-- A field in a line. -/
def Field.text (f : Field) : String := f.name ++ "=" ++ f.value.text

/-- A stretch of work that lines are said within. -/
structure Span where
  name : String
  fields : List Field
deriving Repr

/-- The span in front of a line: its name, and its fields in braces if it has any. -/
def Span.text (s : Span) : String :=
  if s.fields.isEmpty then s.name
  else s.name ++ "\x7b" ++ " ".intercalate (s.fields.map Field.text) ++ "\x7d"

/-- Something said. -/
structure LogLine where
  level : Level
  speaker : Speaker
  message : String
  /-- More text after the message, in the place of a field. -/
  detail : Option String
  fields : List Field
deriving Repr

/-- The line within its spans. Controls that a terminal acts on are shown by number in the message
and its detail. -/
def LogLine.render (spans : List Span) (l : LogLine) : String :=
  l.level.name ++ " "
    ++ (if spans.isEmpty then "" else ":".intercalate (spans.map Span.text) ++ ": ")
    ++ l.speaker.name ++ ": "
    ++ " ".intercalate
      (showControls l.message :: (l.detail.map showControls).toList ++ l.fields.map Field.text)

end Framecast
