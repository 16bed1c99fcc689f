import PhpHooks.Log.Event

set_option autoImplicit false

/-!
Diagnostics and the buffer that keeps them, unless their code is suppressed.
-/
namespace PhpHooks

structure Diagnostic where
  code : Text
  message : Text
  place : Location
  deriving DecidableEq, Repr

def Diagnostic.text (d : Diagnostic) : Text :=
  d.place.text ++ ':' :: ' ' :: d.code ++ ':' :: ' ' :: d.message

/-- The codes to be dropped and the diagnostics kept, oldest first. -/
structure IssueBuffer where
  suppressed : List Text
  kept : List Diagnostic

namespace IssueBuffer

def ofSuppressed (suppressed : List Text) : IssueBuffer := ⟨suppressed, []⟩

/-- Whether a diagnostic is kept when `also` is suppressed too. -/
def accepts (buffer : IssueBuffer) (also : List Text) (d : Diagnostic) : Bool :=
  !buffer.suppressed.contains d.code && !also.contains d.code

/-- Keeps a diagnostic unless its code is suppressed. -/
def report (buffer : IssueBuffer) (also : List Text) (d : Diagnostic) : IssueBuffer :=
  if buffer.accepts also d then { buffer with kept := buffer.kept ++ [d] } else buffer

end IssueBuffer
end PhpHooks
