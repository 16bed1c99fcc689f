import PhpHooks.Files.Path
import PhpHooks.Log.Event
import PhpHooks.Text.Quoted
import PhpHooks.TypeExpr.Reading
import PhpHooks.Yaml.Scalar

set_option autoImplicit false

/-!
What ends a run before it is through.
-/
namespace PhpHooks

/-- A file that cannot be used, an integer with too many digits, a type for which the stack has no
room, a scalar without a value, a switch without one, a home folder that is not known, or links that
lead in a circle. -/
inductive RunFault where
  | unreadable (cause : ReadFault)
  | overflow (cause : Numeral.Overflow)
  | exhausted
  | scalar (cause : ScalarFault)
  | noValue
  | unknownHome
  | linkCircle (path : Path)
  deriving DecidableEq, Repr

def RunFault.ofReading : ReadingFault → RunFault
  | .overflow cause => .overflow cause
  | .exhausted => .exhausted

/-- The message of a fault; about files there is mostly only the label of the cause. -/
def RunFault.message? : RunFault → Option Text
  | .unreadable .nullByte => some "embedded null byte".toList
  | .unreadable _ => none
  | .overflow cause => some cause.message
  | .exhausted => none
  | .scalar cause => cause.message?
  | .noValue => none
  | .unknownHome => some "Could not determine home directory.".toList
  | .linkCircle path => some ("Symlink loop from ".toList ++ Text.quoted path.text)

end PhpHooks
