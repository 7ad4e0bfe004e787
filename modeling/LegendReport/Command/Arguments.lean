import LegendReport.Command.Options

/-!
# Words of the command line

The words of a command line are read from left to right.  A word that starts
with two hyphens is a long option, with its value behind an equals sign or in
the next word.  A word that starts with one hyphen holds short options, of which
the last may have a value behind it, with or without an equals sign, or in the
next word.  A value in a word of its own does not start with a hyphen.  After
the word `--` there are no options.

The first word that is no option names the command, and later ones are its
arguments.  The first thing that is wrong ends the reading, and so does a
request for help.
-/

namespace LegendReport
namespace Command

/-- What the program is asked to do. -/
inductive Task where
  | extract (folder : Path) (legend : Path)
  | listLegend (legend : Path)
  deriving DecidableEq, Repr

/-- A task and the settings that go with it. -/
structure Invocation where
  task : Task
  settings : Settings
  deriving DecidableEq, Repr

section Words

/-- Whether a word that stands alone is an option: it has a hyphen and something behind it. -/
def isOptionWord (word : String) : Bool :=
  match word.toList with
  | '-' :: _ :: _ => true
  | _ => false

/-- Applies the short options of a word.  An option that takes a value from the next word is
returned with the settings. -/
def shortOptions (forms : List OptionForm) (settings : Settings) :
    List Char → Except Stop (Settings × Option OptionForm)
  | [] => .ok (settings, none)
  | c :: rest =>
    match forms.find? fun form => form.short == some c with
    | none => .error (.misuse (.unknownOption (String.ofList ['-', c])))
    | some form =>
      if form.takesValue then
        match rest with
        | [] => .ok (settings, some form)
        | '=' :: value => (settings.apply form (String.ofList value)).map fun s => (s, none)
        | value => (settings.apply form (String.ofList value)).map fun s => (s, none)
      else
        match settings.apply form "" with
        | .ok changed => shortOptions forms changed rest
        | .error stop => .error stop

/-- Applies a long option.  An option that takes a value from the next word is returned with the
settings. -/
def longOption (forms : List OptionForm) (settings : Settings) (body : List Char) :
    Except Stop (Settings × Option OptionForm) :=
  let name := body.takeWhile (· ≠ '=')
  match forms.find? fun form => form.long.toList == name with
  | none => .error (.misuse (.unknownOption (String.ofList ('-' :: '-' :: name))))
  | some form =>
    match body.dropWhile (· ≠ '='), form.takesValue with
    | [], true => .ok (settings, some form)
    | [], false => (settings.apply form "").map fun s => (s, none)
    | _ :: value, true => (settings.apply form (String.ofList value)).map fun s => (s, none)
    | _ :: _, false => .error (.misuse (.unexpectedValue form.long))

/-- The effect of one option word. -/
def optionWord (forms : List OptionForm) (settings : Settings) (word : String) :
    Except Stop (Settings × Option OptionForm) :=
  match word.toList with
  | '-' :: '-' :: body => longOption forms settings body
  | '-' :: body => shortOptions forms settings body
  | _ => .ok (settings, none)

end Words

section Commands

/-- The name of the next argument of a command, if it can have one more. -/
def checkArgument (names : List String) (found : List Path) (word : String) :
    Except Stop (List Path) :=
  match names[found.length]?, Settings.path? word with
  | none, _ => .error (.misuse (.surplusArgument word))
  | some name, none => .error (.misuse (.invalidValue name word))
  | some _, some path => .ok (found ++ [path])

/-- Reads the words after the name of a command: its options and its arguments. -/
def commandWords
    (forms : List OptionForm)
    (names : List String)
    (plain : Bool)
    (settings : Settings)
    (found : List Path) :
    List String → Except Stop (Settings × List Path)
  | [] => .ok (settings, found)
  | word :: rest =>
    if plain || !isOptionWord word then
      match checkArgument names found word with
      | .ok more => commandWords forms names plain settings more rest
      | .error stop => .error stop
    else if word = "--" then commandWords forms names true settings found rest
    else
      match optionWord forms settings word with
      | .error stop => .error stop
      | .ok (changed, none) => commandWords forms names false changed found rest
      | .ok (changed, some form) =>
        match rest with
        | [] => .error (.misuse (.missingValue form.long))
        | value :: rest =>
          if isOptionWord value then .error (.misuse (.missingValue form.long))
          else
            match changed.apply form value with
            | .ok applied => commandWords forms names false applied found rest
            | .error stop => .error stop

/-- The invocation of an extraction, from the words after its name. -/
def extractWords (outer : Settings) (words : List String) : Except Stop Invocation := do
  let (settings, found) ← commandWords extractForms ["<FOLDER>"] false .initial [] words
  match found, settings.legend with
  | [], _ => .error (.misuse (.missingArgument "<FOLDER>"))
  | _, none => .error (.misuse (.missingArgument "--legend <FILE>"))
  | folder :: _, some legend =>
    let checked ← settings.check
    let _ ← outer.check
    return ⟨.extract folder legend, checked.inheriting outer⟩

/-- The invocation of a listing, from the words after its name. -/
def legendWords (outer : Settings) (words : List String) : Except Stop Invocation := do
  let (settings, found) ← commandWords commonForms ["<FILE>"] false .initial [] words
  match found with
  | [] => .error (.misuse (.missingArgument "<FILE>"))
  | legend :: _ =>
    let checked ← settings.check
    let _ ← outer.check
    return ⟨.listLegend legend, checked.inheriting outer⟩

/-- What becomes of the words after a request for help with a command. -/
def helpWords : List String → Stop
  | [] => .help
  | [word] =>
    if word = "extract" ∨ word = "legend" ∨ word = "help" then .help
    else .misuse (.unknownCommand word)
  | _ :: word :: _ => .misuse (.unknownCommand word)

/-- Reads the words of a whole command line, with the settings so far. -/
def programWords (settings : Settings) : List String → Except Stop Invocation
  | [] => .error (.misuse .missingCommand)
  | word :: rest =>
    if word = "--" then
      match rest with
      | [] => .error (.misuse .missingCommand)
      | surplus :: _ => .error (.misuse (.surplusArgument surplus))
    else if isOptionWord word then
      match optionWord programForms settings word with
      | .error stop => .error stop
      | .ok (changed, none) => programWords changed rest
      | .ok (changed, some form) =>
        match rest with
        | [] => .error (.misuse (.missingValue form.long))
        | value :: rest =>
          if isOptionWord value then .error (.misuse (.missingValue form.long))
          else
            match changed.apply form value with
            | .ok applied => programWords applied rest
            | .error stop => .error stop
    else if word = "extract" then extractWords settings rest
    else if word = "legend" then legendWords settings rest
    else if word = "help" then .error (helpWords rest)
    else .error (.misuse (.unknownCommand word))

end Commands

/-- The invocation that the words of a command line stand for. -/
def invocation (words : List String) : Except Stop Invocation :=
  programWords .initial words

end Command
end LegendReport
