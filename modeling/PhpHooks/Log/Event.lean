import PhpHooks.DocBlock.Basic
import PhpHooks.Hook.Kind
import PhpHooks.Location
import PhpHooks.TypeExpr.Parser

set_option autoImplicit false

/-!
What a run reports about itself: every event belongs to a component, has a level and a message.
-/
namespace PhpHooks

/-- How serious an event is; `unset` is below all that is ever logged. -/
inductive Level where
  | unset
  | debug
  | info
  | warning
  | error
  | critical
  deriving DecidableEq, Repr

namespace Level

def all : List Level := [.unset, .debug, .info, .warning, .error, .critical]

def name : Level → Text
  | .unset => "NOTSET".toList
  | .debug => "DEBUG".toList
  | .info => "INFO".toList
  | .warning => "WARNING".toList
  | .error => "ERROR".toList
  | .critical => "CRITICAL".toList

/-- The level of a name. Two levels have a second name. -/
def ofName? (t : Text) : Option Level :=
  if t == "WARN".toList then some .warning
  else if t == "FATAL".toList then some .critical
  else all.find? fun level => level.name == t

def rank : Level → Nat
  | .unset => 0
  | .debug => 10
  | .info => 20
  | .warning => 30
  | .error => 40
  | .critical => 50

end Level

inductive ReadFault where
  | missing
  | isFolder
  | notFolder
  | tooManyLinks
  | nameTooLong
  | nullByte
  | badEncoding
  | badJson
  deriving DecidableEq, Repr

def ReadFault.label : ReadFault → Text
  | .missing => "FileNotFoundError".toList
  | .isFolder => "IsADirectoryError".toList
  | .notFolder => "NotADirectoryError".toList
  | .tooManyLinks => "OSError".toList
  | .nameTooLong => "OSError".toList
  | .nullByte => "ValueError".toList
  | .badEncoding => "UnicodeDecodeError".toList
  | .badJson => "JSONDecodeError".toList

inductive Event where
  | typeDropped (text : Text) (cause : Malformed)
  | registered (kind : HookKind) (name : Text) (parameters : Nat)
  | corpusLoaded (hooks files : Nat)
  | corpusSkipped (source : Text) (cause : ReadFault)
  | corpusWithoutHooks (source : Text)
  | entryMalformed (source : Text)
  | entryUnusable (name source : Text)
  | docIgnored (name : Text) (cause : DocBlock.Fault)
  | inferred (kind : HookKind) (name : Text) (place : Option Location)
  | recovered (hooks : Nat) (path : Text)
  | sourceSkipped (path : Text) (cause : ReadFault)
  | suppressed (diagnostic : Text)
  | reported (diagnostic : Text)
  deriving DecidableEq, Repr

namespace Event

def component : Event → Text
  | .typeDropped .. => "normalizer".toList
  | .registered .. => "registry".toList
  | .corpusLoaded .. | .corpusSkipped .. | .corpusWithoutHooks .. | .entryMalformed ..
  | .entryUnusable .. => "corpus".toList
  | .docIgnored .. => "analyzers.doc_comments".toList
  | .inferred .. => "analyzers.call_sites".toList
  | .recovered .. | .sourceSkipped .. => "session".toList
  | .suppressed .. => "diagnostics".toList
  | .reported .. => "checker".toList

def level : Event → Level
  | .corpusSkipped .. | .corpusWithoutHooks .. | .sourceSkipped .. => .warning
  | .reported .. => .info
  | _ => .debug

def message : Event → Text
  | .typeDropped text cause =>
      "Dropping unparseable type ".toList ++ Text.quoted text ++ ": ".toList ++ cause.message text
  | .registered kind name parameters =>
      "Registered ".toList ++ kind.name ++ " hook ".toList ++ name ++ " with ".toList ++
        Text.ofNat parameters ++ " params".toList
  | .corpusLoaded hooks files =>
      "Loaded ".toList ++ Text.ofNat hooks ++ " hooks from ".toList ++ Text.ofNat files ++
        " corpus files".toList
  | .corpusSkipped source cause =>
      "Skipping hook corpus ".toList ++ source ++ ": ".toList ++ cause.label
  | .corpusWithoutHooks source =>
      "Hook corpus ".toList ++ source ++ " has no hooks list".toList
  | .entryMalformed source =>
      "Skipping malformed hook entry in ".toList ++ source ++ ": ValidationError".toList
  | .entryUnusable name source =>
      "Skipping hook ".toList ++ name ++ " in ".toList ++ source ++
        ": unparseable parameter type".toList
  | .docIgnored name cause =>
      "Ignoring doc comment for hook ".toList ++ name ++ ": ".toList ++ cause.message
  | .inferred kind name place =>
      "Inferred ".toList ++ kind.name ++ " hook ".toList ++ name ++ " from call at ".toList ++
        (place.map Location.text).getD "None".toList
  | .recovered hooks path =>
      "Recovered ".toList ++ Text.ofNat hooks ++ " documented hooks from ".toList ++ path
  | .sourceSkipped path cause => "Skipping ".toList ++ path ++ ": ".toList ++ cause.label
  | .suppressed diagnostic => "Suppressed ".toList ++ diagnostic
  | .reported diagnostic => diagnostic

end Event
end PhpHooks
