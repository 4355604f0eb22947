import AnnotatedSql.Failure.Basic
import AnnotatedSql.Json.Writer

/-!
# Encoders

What turns the objects of a log into JSON text is not fixed here. An encoder is known by what it
makes of a value, and by the text that it has for a value that is the key of an entry; it may fail
at both.
-/

namespace AnnotatedSql.Json

/-- Something that turns values into JSON text. -/
structure Encoder where
  /-- The text of a value. -/
  text : Value → Except Failure String
  /-- The text that stands for a value as the key of an entry. -/
  key : Value → Except Failure String

/-- The encoder that writes a value if it can be shown. -/
def Encoder.standard : Encoder where
  text v := if v.isShowable then .ok (encode v) else .error .unshowable
  key v := if v.isShowable then .ok (keyText v) else .error .unshowable

end AnnotatedSql.Json
