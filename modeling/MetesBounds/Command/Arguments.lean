import MetesBounds.Path
import MetesBounds.Text.Digit
import MetesBounds.Text.Quoted

/-!
# `Command/Arguments` — what the words after the command ask for

A word that begins with a hyphen is an option; two hyphens alone end the options. Options may be
shortened as long as no other begins the same way, and a value may follow in the next word or
after an equals sign. Two hyphens are never a value: an option whose value they are has none. One
word that belongs to no option is the file; every further one, and every unknown option, is refused
at the end.
-/

set_option autoImplicit false

namespace MetesBounds.Command

/-- What is given to an option: a text, or no value, where two hyphens stand in its place. -/
inductive Given where
  | text (s : String)
  | noValue

namespace Given

/-- What is given where a value stands. -/
def ofValue (s : String) : Given := if s == "--" then .noValue else .text s

/-- What is given, as it is printed. -/
def shown : Given → String
  | text s => s
  | noValue => "[]"

/-- What is given, as a path is shown. -/
def asPath : Given → Given
  | text s => .text (Path.normal s)
  | noValue => .noValue

end Given

/-- What is asked for. -/
structure Arguments where
  file : String
  name : Option Given
  description : Given
  polygon : Bool
  distanceUnit : Given
  verbose : Bool
  auditDir : Option Given

/-- Why nothing can be done: help was asked for, or the words make no sense. -/
inductive Usage where
  | help
  | fault (message : String)

/-- The name that messages begin with. -/
def programName : String := "traverse-wkt"

/-- How the command is called. -/
def usageText : String :=
  "usage: " ++ programName ++ " [-h] [--name NAME] [--description DESCRIPTION] [--polygon]\n" ++
    "                    [--distance-unit DISTANCE_UNIT] [--verbose]\n" ++
    "                    [--audit-dir AUDIT_DIR]\n" ++
    "                    file"

/-- A fault as it is reported. -/
def faultLine (message : String) : String := programName ++ ": error: " ++ message

/-- The options. -/
inductive Opt where
  | help | name | description | polygon | distanceUnit | verbose | auditDir
  deriving DecidableEq

namespace Opt

/-- All spellings of options, in order. -/
def spellings : List (String × Opt) := [
  ("-h", help), ("--help", help), ("--name", name), ("--description", description),
  ("--polygon", polygon), ("--distance-unit", distanceUnit), ("--verbose", verbose),
  ("--audit-dir", auditDir)
]

/-- An option as messages name it. -/
def title (o : Opt) : String :=
  "/".intercalate ((spellings.filter fun e => e.2 == o).map Prod.fst)

/-- Whether an option takes a value. -/
def takesValue : Opt → Bool
  | help | polygon | verbose => false
  | name | description | distanceUnit | auditDir => true

end Opt

/-- What a word is. -/
inductive Word where
  | plain (s : String)
  | option (o : Opt) (value : Option String)
  | unknown (s : String)
  | endOfOptions

/-- A word up to its first equals sign, and what follows that. -/
def splitValue (s : String) : String × Option String :=
  let front := s.toList.takeWhile (· != '=')
  match s.toList.drop front.length with
  | _ :: value => (String.ofList front, some (String.ofList value))
  | [] => (s, none)

/-- The option that is spelled in full. -/
def spelled? (s : String) : Option Opt := (Opt.spellings.find? fun e => e.1 == s).map Prod.snd

/-- A row of digits, of which there is at least one and which a line end may follow. -/
def isLastDigits (cs : List Char) : Bool :=
  let digits := cs.takeWhile Text.isDigit
  let rest := cs.drop digits.length
  !digits.isEmpty && (rest.isEmpty || rest == ['\n'])

/-- Whether a word is a number below zero. -/
def isNegativeNumeral (s : String) : Bool :=
  match s.toList with
  | '-' :: cs =>
    isLastDigits cs ||
      match cs.dropWhile Text.isDigit with
      | '.' :: fraction => isLastDigits fraction
      | _ => false
  | _ => false

/-- What is left of the letters behind `-h`, each of which may ask for help once more; nothing, if
that is all they do. -/
def afterHelp (s : String) : Option String :=
  let rest := s.toList.dropWhile (· == 'h')
  if rest.isEmpty && !s.isEmpty then none else some (String.ofList rest)

/-- The option of a word that spells one in full before its value. -/
def Word.valued (front value : String) (o : Opt) : Word :=
  .option o (if front == "-h" then afterHelp value else some value)

/-- What a word is that begins with a hyphen and spells no option in full. -/
def readShortened (s : String) : Except Usage Word :=
  let (front, value) := splitValue s
  let found := if Text.beginsWith "--" s then
      Opt.spellings.filter fun e => Text.beginsWith front e.1
    else []
  match found with
  | [e] => .ok (.option e.2 value)
  | _ :: _ :: _ =>
    .error (.fault ("ambiguous option: " ++ s ++ " could match " ++
      Text.listed (found.map Prod.fst)))
  | [] =>
    match Text.afterStart? "-h" s with
    | some letters => .ok (.option .help (afterHelp letters))
    | none =>
      if isNegativeNumeral s || s.toList.contains ' ' then .ok (.plain s) else .ok (.unknown s)

/-- What a word is, before the end of the options. -/
def readWord (s : String) : Except Usage Word :=
  if s == "--" then .ok .endOfOptions
  else if !Text.beginsWith "-" s || s == "-" then .ok (.plain s)
  else
    match spelled? s with
    | some o => .ok (.option o none)
    | none =>
      match splitValue s with
      | (front, some value) =>
        match spelled? front with
        | some o => .ok (.valued front value o)
        | none => readShortened s
      | (_, none) => readShortened s

/-- What words are. -/
def readWords : List String → Except Usage (List Word)
  | [] => .ok []
  | s :: rest => do
    match ← readWord s with
    | .endOfOptions => return .endOfOptions :: rest.map .plain
    | w => return w :: (← readWords rest)

/-- What has been taken in so far. -/
structure Taken where
  file : Option String
  name : Option Given
  description : Given
  polygon : Bool
  distanceUnit : Given
  verbose : Bool
  auditDir : Option Given
  left : List String

/-- What holds where nothing is said. -/
def Taken.start : Taken := ⟨none, none, .text "", false, .text "foot", false, none, []⟩

/-- Takes in the value of an option. -/
def Taken.withValue (t : Taken) (o : Opt) (value : String) : Taken :=
  let given := Given.ofValue value
  match o with
  | .name => { t with name := some given }
  | .description => { t with description := given }
  | .distanceUnit => { t with distanceUnit := given }
  | .auditDir => { t with auditDir := some given }
  | _ => t

/-- Takes in an option without a value. -/
def Taken.withFlag (t : Taken) (o : Opt) : Except Usage Taken :=
  match o with
  | .help => .error .help
  | .polygon => .ok { t with polygon := true }
  | .verbose => .ok { t with verbose := true }
  | _ => .error (.fault ("argument " ++ o.title ++ ": expected one argument"))

/-- Takes in a word that belongs to no option. -/
def Taken.withPlain (t : Taken) (s : String) : Taken :=
  match t.file with
  | none => { t with file := some s }
  | some _ => { t with left := t.left ++ [s] }

/-- Takes in the end of the options, which belongs to the file on either side of it. -/
def Taken.withEnd (t : Taken) (directlyAfterFile : Bool) : Taken :=
  if t.file.isNone || directlyAfterFile then t else { t with left := t.left ++ ["--"] }

/-- Takes in words; `atFile` says that the word before was the file. -/
def takeWords (t : Taken) (atFile : Bool) : List Word → Except Usage Taken
  | [] => .ok t
  | .plain s :: rest => takeWords (t.withPlain s) t.file.isNone rest
  | .endOfOptions :: rest => takeWords (t.withEnd atFile) false rest
  | .unknown s :: rest => takeWords { t with left := t.left ++ [s] } false rest
  | .option o (some value) :: rest =>
    if o.takesValue then takeWords (t.withValue o value) false rest
    else
      .error (.fault ("argument " ++ o.title ++ ": ignored explicit argument " ++
        Text.quoted value))
  | .option o none :: .plain value :: rest =>
    if o.takesValue then takeWords (t.withValue o value) false rest
    else do takeWords ((← t.withFlag o).withPlain value) t.file.isNone rest
  | .option o none :: rest => do takeWords (← t.withFlag o) false rest

/-- What words ask for. -/
def Arguments.parse (words : List String) : Except Usage Arguments := do
  let t ← takeWords .start false (← readWords words)
  match t.file with
  | none => .error (.fault "the following arguments are required: file")
  | some file =>
    if t.left.isEmpty then
      return ⟨Path.normal file, t.name, t.description, t.polygon, t.distanceUnit, t.verbose,
        t.auditDir.map Given.asPath⟩
    else .error (.fault ("unrecognized arguments: " ++ " ".intercalate t.left))

end MetesBounds.Command
