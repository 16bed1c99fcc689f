import PhpHooks.Text.Digit

set_option autoImplicit false

/-!
Reading the command line: switches of the tool, a command, switches of the command and paths.
Long switches may be shortened as long as only one name begins that way, and short ones may share
a dash. Behind two dashes everything is a path.
-/
namespace PhpHooks.CommandLine

inductive Switch where
  | help
  | verbose
  | logFile
  | config
  | suppress
  | json
  deriving DecidableEq, Repr

def Switch.takesValue : Switch → Bool
  | .logFile | .config | .suppress => true
  | .help | .verbose | .json => false

abbrev Names := List (Text × Switch)

def commonNames : Names :=
  [("-h".toList, .help), ("--help".toList, .help), ("-v".toList, .verbose),
    ("--verbose".toList, .verbose)]

def toolNames : Names :=
  commonNames ++ [("--log-file".toList, .logFile)]

def checkNames : Names :=
  commonNames ++ [("--config".toList, .config), ("--suppress".toList, .suppress)]

def hooksNames : Names :=
  commonNames ++ [("--config".toList, .config), ("--json".toList, .json)]

/-- What an argument is: a word, the two dashes, switches without values, a switch with its value or
with the value to follow, a switch used in a way that it cannot be, or an unknown switch. -/
inductive Item where
  | word (text : Text)
  | separator
  | plain (switches : List Switch)
  | valued (switch : Switch) (value : Option Text)
  | misused
  | unknown
  deriving DecidableEq, Repr

/-- The item of short switches that share a dash, the ones before these letters being `switches`.
None of them takes a value. -/
def cluster (names : Names) (switches : List Switch) : Text → Item
  | [] => .plain switches
  | letter :: rest =>
      match names.lookup ['-', letter] with
      | some switch => cluster names (switches ++ [switch]) rest
      | none => .misused

/-- The item of a switch that stands alone or in front of an equals sign and a value. Behind the
sign of a short switch without a value there may be more short ones. -/
def switchItem (names : Names) (name : Text) (switch : Switch) (value : Option Text) : Item :=
  if switch.takesValue then .valued switch value
  else
    match value with
    | none => .plain [switch]
    | some letters =>
        if Text.startsWith name ['-', '-'] || letters.isEmpty then .misused
        else cluster names [switch] letters

/-- A text up to its first equals sign, and what follows the sign if there is one. -/
def splitValue (t : Text) : Text × Option Text :=
  match t.dropWhile (· != '=') with
  | _ :: value => (t.takeWhile (· != '='), some value)
  | [] => (t, none)

/-- Whether a text reads as a negative number. A line feed at its end does not count. -/
def isNegative (t : Text) : Bool :=
  match t with
  | '-' :: rest =>
      let rest := if rest.getLast? == some '\n' then rest.dropLast else rest
      match rest.dropWhile Text.isDigit with
      | [] => !rest.isEmpty
      | '.' :: places => !places.isEmpty && places.all Text.isDigit
      | _ => false
  | _ => false

/-- The item of an argument that is no name of a switch, neither alone nor in front of an equals
sign; `none` if it may shorten several. -/
def otherItem? (names : Names) (arg : Text) : Option Item :=
  let asWord := if isNegative arg || arg.contains ' ' then Item.word arg else .unknown
  match arg with
  | '-' :: '-' :: _ =>
      let (start, value) := splitValue arg
      match names.filter fun (name, _) => Text.startsWith name start with
      | [] => some asWord
      | [(name, switch)] => some (switchItem names name switch value)
      | _ => none
  | _ =>
      match names.lookup (arg.take 2) with
      | some switch => some (cluster names [switch] (arg.drop 2))
      | none => some asWord

/-- The item of an argument in front of the two dashes; `none` if it may shorten several
switches. -/
def item? (names : Names) (arg : Text) : Option Item :=
  if arg.head? != some '-' then some (.word arg)
  else
    match names.lookup arg with
    | some switch => some (switchItem names arg switch none)
    | none =>
        if arg == ['-'] then some (.word arg)
        else
          let (start, value) := splitValue arg
          match names.lookup start, value with
          | some switch, some value => some (switchItem names start switch (some value))
          | _, _ => otherItem? names arg

def items? (names : Names) : List Text → Option (List (Item × Text))
  | [] => some []
  | arg :: rest =>
      if arg == ['-', '-'] then some ((.separator, arg) :: rest.map fun t => (.word t, t))
      else do
        let item ← item? names arg
        let others ← items? names rest
        return (item, arg) :: others

/-- Why nothing is run: help was asked for, or the arguments make no sense. -/
inductive Stop where
  | help
  | misuse
  deriving DecidableEq, Repr

/-- The value of a switch. Two dashes behind its equals sign are no value. -/
abbrev Value := Option Text

def Value.ofText (t : Text) : Value :=
  if t == ['-', '-'] then none else some t

structure Wishes where
  verbose : Bool
  json : Bool
  logFile : Value
  config : Value
  suppress : List Value

namespace Wishes

/-- The wishes without any switch: the settings are those of the working folder. -/
def initial : Wishes := ⟨false, false, none, some ['.'], []⟩

/-- Adds switches in order; help comes before everything that follows it. -/
def addPlain : List Switch → Wishes → Except Stop Wishes
  | [], w => .ok w
  | .help :: _, _ => .error .help
  | .verbose :: rest, w => addPlain rest { w with verbose := true }
  | .json :: rest, w => addPlain rest { w with json := true }
  | _ :: rest, w => addPlain rest w

/-- Adds a switch with its value. Values to suppress add up; of the others the last one counts. -/
def addValue (switch : Switch) (value : Value) (w : Wishes) : Wishes :=
  match switch with
  | .logFile => { w with logFile := value }
  | .config => { w with config := value }
  | .suppress => { w with suppress := w.suppress ++ [value] }
  | _ => w

end Wishes

/-- The words of a command so far: they have to stand together. -/
inductive Words where
  | before
  | within (words : List Text)
  | after (words : List Text)

namespace Words

def list : Words → List Text
  | .before => []
  | .within words => words
  | .after words => words

/-- One word more, if the words have not ended. -/
def add? (word : List Text) : Words → Option Words
  | .before => some (.within word)
  | .within words => some (.within (words ++ word))
  | .after _ => none

def close : Words → Words
  | .within words => .after words
  | words => words

end Words

/-- The wishes and words in the items of a command. An unknown switch or a word out of place makes
no sense, but only once everything has been read. -/
def gather (stray : Bool) : Words → Wishes → List Item → Except Stop (Wishes × List Text)
  | words, wishes, [] => if stray then .error .misuse else .ok (wishes, words.list)
  | words, wishes, .word t :: rest =>
      match words.add? [t] with
      | some words => gather stray words wishes rest
      | none => gather true words wishes rest
  | words, wishes, .separator :: rest =>
      match words.add? [] with
      | some words => gather stray words wishes rest
      | none => gather true words wishes rest
  | words, wishes, .plain switches :: rest =>
      match wishes.addPlain switches with
      | .ok wishes => gather stray words.close wishes rest
      | .error stop => .error stop
  | words, wishes, .valued switch (some value) :: rest =>
      gather stray words.close (wishes.addValue switch (.ofText value)) rest
  | words, wishes, .valued switch none :: .word value :: rest =>
      gather stray words.close (wishes.addValue switch (.ofText value)) rest
  | _, _, .valued _ none :: _ => .error .misuse
  | _, _, .misused :: _ => .error .misuse
  | words, wishes, .unknown :: rest => gather true words.close wishes rest

inductive Command where
  | check (suppress : List Value)
  | hooks (json : Bool)
  deriving DecidableEq, Repr

structure Options where
  command : Command
  paths : List Text
  config : Value
  verbose : Bool
  logFile : Option Text
  deriving DecidableEq, Repr

def orElse (values others : List Text) : List Text :=
  if values.isEmpty then others else values

def readCommand (tool : Wishes) (stray : Bool) (name : Text) (args : List Text) :
    Except Stop Options :=
  let logFile := tool.logFile.filter fun t => !t.isEmpty
  let read (names : Names) : Except Stop (Wishes × List Text) :=
    match items? names args with
    | none => .error .misuse
    | some items => gather stray .before { Wishes.initial with verbose := tool.verbose }
        (items.map Prod.fst)
  if name == "check".toList then do
    let (wishes, words) ← read checkNames
    return { command := .check wishes.suppress, paths := orElse words [['.']],
             config := wishes.config, verbose := wishes.verbose, logFile }
  else if name == "hooks".toList then do
    let (wishes, words) ← read hooksNames
    return { command := .hooks wishes.json, paths := words,
             config := wishes.config, verbose := wishes.verbose, logFile }
  else .error .misuse

def readTool (stray : Bool) : Wishes → List (Item × Text) → Except Stop Options
  | _, [] => .error .misuse
  | wishes, (.word name, _) :: rest => readCommand wishes stray name (rest.map Prod.snd)
  | wishes, (.plain switches, _) :: rest =>
      match wishes.addPlain switches with
      | .ok wishes => readTool stray wishes rest
      | .error stop => .error stop
  | wishes, (.valued switch (some value), _) :: rest =>
      readTool stray (wishes.addValue switch (.ofText value)) rest
  | wishes, (.valued switch none, _) :: (.word value, _) :: rest =>
      readTool stray (wishes.addValue switch (.ofText value)) rest
  | _, (.valued _ none, _) :: _ => .error .misuse
  | _, (.separator, _) :: _ => .error .misuse
  | _, (.misused, _) :: _ => .error .misuse
  | wishes, (.unknown, _) :: rest => readTool true wishes rest

def read (args : List Text) : Except Stop Options :=
  match items? toolNames args with
  | none => .error .misuse
  | some items => readTool false Wishes.initial items

end PhpHooks.CommandLine
