import PhpHooks.Text.Lowercase
import PhpHooks.Text.Quoted

set_option autoImplicit false

/-!
Kinds of hooks, and the functions that invoke hooks or register callbacks for them.
-/
namespace PhpHooks

/-- Actions are run, filters pass a value on; either may hand its arguments over by reference. -/
inductive HookKind where
  | action
  | actionReference
  | filter
  | filterReference
  deriving DecidableEq, Repr

namespace HookKind

def all : List HookKind :=
  [.action, .actionReference, .filter, .filterReference]

def name : HookKind → Text
  | .action => "action".toList
  | .actionReference => "action_reference".toList
  | .filter => "filter".toList
  | .filterReference => "filter_reference".toList

def ofName? (t : Text) : Option HookKind :=
  all.find? fun kind => kind.name == t

def unknownMessage (t : Text) : Text :=
  Text.quoted t ++ " is not a valid HookKind".toList

def isAction : HookKind → Bool
  | .action | .actionReference => true
  | .filter | .filterReference => false

def isFilter (kind : HookKind) : Bool :=
  !kind.isAction

/-- Whether a hook of this kind may be registered as `expected`: both are actions or both are
filters. -/
def satisfies (kind expected : HookKind) : Bool :=
  kind.isAction == expected.isAction

end HookKind

namespace FunctionName

/-- Function names are read without regard to case and to the backslashes in front. -/
def normalize (t : Text) : Text :=
  Text.lower (t.dropWhile (· == '\\'))

/-- The functions that invoke a hook, with the kind of hook they invoke. -/
def invocations : List (Text × HookKind) :=
  [("apply_filters".toList, .filter),
    ("apply_filters_ref_array".toList, .filterReference),
    ("apply_filters_deprecated".toList, .filter),
    ("do_action".toList, .action),
    ("do_action_ref_array".toList, .actionReference),
    ("do_action_deprecated".toList, .action)]

/-- The functions that register a callback, with the kind of hook they expect. -/
def registrations : List (Text × HookKind) :=
  [("add_action".toList, .action), ("add_filter".toList, .filter)]

def invocation? (name : Option Text) : Option HookKind :=
  name.bind fun t => invocations.lookup (normalize t)

def registration? (name : Option Text) : Option HookKind :=
  name.bind fun t => registrations.lookup (normalize t)

end FunctionName
end PhpHooks
