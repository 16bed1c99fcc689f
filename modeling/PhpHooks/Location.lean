import PhpHooks.Text.Basic

set_option autoImplicit false

/-!
Places in source files.
-/
namespace PhpHooks

/-- A place in a file; lines and columns count from one. -/
structure Location where
  file : Text
  line : Int
  column : Int
  deriving DecidableEq, Repr

def Location.text (place : Location) : Text :=
  place.file ++ ':' :: Text.ofInt place.line ++ ':' :: Text.ofInt place.column

end PhpHooks
