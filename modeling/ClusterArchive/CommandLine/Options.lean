import ClusterArchive.Assoc
import ClusterArchive.Decimal.Digits
import ClusterArchive.Text.Split

/-! Options on a command line. A word that begins with a dash is an option or several short ones, and
every other word is the value of the option before it or names a command. -/

namespace ClusterArchive.CommandLine

/-- Why no invocation is read: it is wrong, or something else is asked for. -/
inductive Stop
  | usage
  | help
  | version
deriving DecidableEq, Repr

/-- What an option takes. A number lies below a limit, with a plus sign before it or, if it is an
integer, any sign; a path is not empty. -/
inductive OptionKind
  | flag
  | stop (reason : Stop)
  | text
  | path
  | natural (limit : Nat)
  | integer (limit : Nat)
deriving DecidableEq, Repr

structure OptionSpec where
  name : String
  short : Option Char
  kind : OptionKind
  repeats : Bool
deriving DecidableEq, Repr

inductive OptionValue
  | present
  | text (text : String)
  | number (n : Nat)
deriving DecidableEq, Repr

/-- The value that a text is for an option; none if it is not one. -/
def OptionKind.value? (kind : OptionKind) (text : String) : Option OptionValue :=
  match kind with
  | flag | stop _ => none
  | .text => some (.text text)
  | path => if text = "" then none else some (.text text)
  | natural limit => number limit (Decimal.plusNatural? text.toList)
  | integer limit => number limit ((Decimal.integer? text.toList).bind Int.toNat?)
where
  number (limit : Nat) (read : Option Nat) : Option OptionValue :=
    (read.filter (· < limit)).map .number

/-- Whether a word follows the option as its value, when none is attached. -/
def OptionKind.takesValue : OptionKind → Bool
  | flag | stop _ => false
  | _ => true

/-- The given options, by name, with their values in the order in which they were given. -/
abbrev Options := List (String × List OptionValue)

namespace Options

def empty : Options := []

def values (options : Options) (spec : OptionSpec) : List OptionValue :=
  (Assoc.get? spec.name options).getD []

def isGiven (options : Options) (spec : OptionSpec) : Bool := Assoc.contains spec.name options

def texts (options : Options) (spec : OptionSpec) : List String :=
  (options.values spec).filterMap fun
    | .text text => some text
    | _ => none

def text? (options : Options) (spec : OptionSpec) : Option String := (options.texts spec).head?

def number? (options : Options) (spec : OptionSpec) : Option Nat :=
  (options.values spec).findSome? fun
    | .number n => some n
    | _ => none

/-- Adds a value. Only an option that repeats may be given again. -/
def add (options : Options) (spec : OptionSpec) (value : OptionValue) : Except Stop Options :=
  if options.isGiven spec && !spec.repeats then .error .usage
  else .ok (Assoc.insert spec.name (options.values spec ++ [value]) options)

def addText (options : Options) (spec : OptionSpec) (text : String) : Except Stop Options :=
  match spec.kind.value? text with
  | some value => options.add spec value
  | none => .error .usage

def addBare (options : Options) (spec : OptionSpec) : Except Stop Options :=
  match spec.kind with
  | .stop reason => .error reason
  | _ => options.add spec .present

/-- Reads the short options after a dash. What stands behind one that takes a value is its value;
the result names the option whose value is the next word. -/
def readShort (specs : List OptionSpec) (options : Options) :
    List Char → Except Stop (Options × Option OptionSpec)
  | [] => .ok (options, none)
  | c :: rest =>
    match specs.find? (·.short = some c) with
    | none => .error .usage
    | some spec =>
      if !spec.kind.takesValue then do readShort specs (← options.addBare spec) rest
      else
        match rest with
        | [] => .ok (options, some spec)
        | '=' :: text | text => return (← options.addText spec (String.ofList text), none)

/-- Reads an option after two dashes, with its value behind an equals sign or in the next word. -/
def readLong (specs : List OptionSpec) (options : Options) (word : List Char) :
    Except Stop (Options × Option OptionSpec) :=
  let name := word.takeWhile (· ≠ '=')
  match specs.find? (·.name = String.ofList name), word.drop name.length with
  | none, _ => .error .usage
  | some spec, '=' :: text =>
    if spec.kind.takesValue then return (← options.addText spec (String.ofList text), none)
    else .error .usage
  | some spec, _ =>
    if spec.kind.takesValue then .ok (options, some spec)
    else return (← options.addBare spec, none)

/-- A word that is no value: a dash and more. -/
def isOption (word : String) : Bool :=
  match word.toList with
  | '-' :: _ :: _ => true
  | _ => false

def readOption (specs : List OptionSpec) (options : Options) (word : String) :
    Except Stop (Options × Option OptionSpec) :=
  match word.toList with
  | '-' :: '-' :: long => readLong specs options long
  | '-' :: c :: rest => readShort specs options (c :: rest)
  | _ => .error .usage

/-- Reads options up to the end or a command; the result holds the command and what follows it. The
option `awaiting` still has to get its value. Two dashes end the options, and nothing may follow. -/
def read (specs : List OptionSpec) (commands : List String) (options : Options)
    (awaiting : Option OptionSpec) : List String → Except Stop (Options × Option (String × List String))
  | [] => if awaiting.isNone then .ok (options, none) else .error .usage
  | word :: rest =>
    match awaiting with
    | some spec =>
      if isOption word then .error .usage
      else do read specs commands (← options.addText spec word) none rest
    | none =>
      if commands.contains word then .ok (options, some (word, rest))
      else if word = "--" then
        if rest.isEmpty then .ok (options, none) else .error .usage
      else do
        let (options, awaiting) ← readOption specs options word
        read specs commands options awaiting rest

end Options

end ClusterArchive.CommandLine
