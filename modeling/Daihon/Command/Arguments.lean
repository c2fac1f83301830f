/-!
# Arguments of a command

Arguments are options and words, read as the library for command lines documents it:

* a long option starts with two dashes and may carry its value behind an equals sign (`longOption?`);
* short options start with one dash and may be joined, the last of them with its value behind it
  (`letters?`);
* an option that needs a value and does not carry it takes the next argument, whatever that is, two dashes
  alone end the options, and a dash alone is a word (`Arguments.read`);
* options may stand behind words, save in front of the name of a command;
* an option that is given several times has the value given last (`Arguments.value?`).

Whatever else comes up is a usage error.
-/

namespace Daihon.Command

inductive OptionKey where
  | verbose
  | debug
  | json
  | config
  | label
  | start
  | stop
  deriving DecidableEq, Repr

namespace OptionKey

/-- The letter of an option, if it has one. -/
def short : OptionKey → Option Char
  | verbose => some 'v'
  | debug => none
  | json => none
  | config => some 'c'
  | label => some 'l'
  | start => some 's'
  | stop => some 'e'

def long : OptionKey → List Char
  | verbose => ['v', 'e', 'r', 'b', 'o', 's', 'e']
  | debug => ['d', 'e', 'b', 'u', 'g']
  | json => ['j', 's', 'o', 'n']
  | config => ['c', 'o', 'n', 'f', 'i', 'g']
  | label => ['l', 'a', 'b', 'e', 'l', '-', 'i', 'd']
  | start => ['s', 't', 'a', 'r', 't']
  | stop => ['e', 'n', 'd']

def needsValue : OptionKey → Bool
  | verbose | debug | json => false
  | config | label | start | stop => true

end OptionKey

/-- The options that one argument gives, with their values; the last one may wait for its value. -/
structure OptionGroup where
  given : List (OptionKey × String)
  waiting : Option OptionKey := none
  deriving DecidableEq, Repr

def OptionGroup.push (key : OptionKey) (g : OptionGroup) : OptionGroup :=
  { g with given := (key, "") :: g.given }

def letters? (known : List OptionKey) : List Char → Option OptionGroup
  | [] => some ⟨[], none⟩
  | c :: cs =>
    match known.find? fun key => key.short == some c with
    | none => none
    | some key =>
      if !key.needsValue then (letters? known cs).map (OptionGroup.push key)
      else if cs.isEmpty then some ⟨[], some key⟩
      else some ⟨[(key, .ofList cs)], none⟩

/-- What stands behind the first equals sign. -/
def attachedValue? (s : List Char) : Option String :=
  match s.dropWhile fun c => c != '=' with
  | [] => none
  | _ :: value => some (.ofList value)

/-- A long option, with the value attached to it. -/
def longOption? (key : OptionKey) (value : Option String) : Option OptionGroup :=
  match key.needsValue, value with
  | true, some value => some ⟨[(key, value)], none⟩
  | true, none => some ⟨[], some key⟩
  | false, none => some ⟨[(key, "")], none⟩
  | false, some _ => none

/-- The options of an argument, given without its first dash. -/
def options? (known : List OptionKey) (s : List Char) : Option OptionGroup :=
  match s with
  | '-' :: long =>
    match known.find? fun key => key.long == long.takeWhile fun c => c != '=' with
    | some key => longOption? key (attachedValue? long)
    | none => none
  | letters => letters? known letters

/-- Arguments that have been read: options with their values and words, in order. -/
structure Arguments where
  options : List (OptionKey × String)
  words : List String
  deriving DecidableEq, Repr

namespace Arguments

def withOptions (options : List (OptionKey × String)) (a : Arguments) : Arguments :=
  { a with options := options ++ a.options }

def withWord (word : String) (a : Arguments) : Arguments :=
  { a with words := word :: a.words }

/-- Reads arguments.  If `mixed` is false, the first word ends the options. -/
def read (known : List OptionKey) (mixed : Bool) : List String → Option Arguments
  | [] => some ⟨[], []⟩
  | arg :: rest =>
    match arg.toList with
    | ['-', '-'] => some ⟨[], rest⟩
    | '-' :: c :: cs =>
      match options? known (c :: cs) with
      | none => none
      | some ⟨given, none⟩ => (read known mixed rest).map (withOptions given)
      | some ⟨given, some key⟩ =>
        match rest with
        | [] => none
        | value :: rest => (read known mixed rest).map (withOptions (given ++ [(key, value)]))
    | _ =>
      if mixed then (read known mixed rest).map (withWord arg)
      else some ⟨[], arg :: rest⟩

def has (a : Arguments) (key : OptionKey) : Bool :=
  a.options.any fun o => o.1 = key

/-- The value of an option; of several the last one counts. -/
def value? (a : Arguments) (key : OptionKey) : Option String :=
  (a.options.reverse.find? fun o => o.1 = key).map Prod.snd

end Arguments

end Daihon.Command
