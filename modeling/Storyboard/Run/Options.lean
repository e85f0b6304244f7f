import Storyboard.Number.Numeral
import Storyboard.Text.Quoted
/-!
# Options

The arguments of a command line are options and their values. An option is written in full or as an
unambiguous beginning of its long form; a value stands behind it or behind an equals sign in the
same argument. Short options without a value may be written together, also behind an equals sign.
What is neither an option nor the value of one is not recognised.

Which arguments look like options is settled first, for all of them up to a bare double hyphen;
then they are used up from left to right.
-/
namespace Storyboard

open Storyboard.Text (quoted isDecimalDigit)

inductive Flag where
  | help
  | input
  | out
  | flowSegueKind
  | noCopy
  | verbose
  deriving Repr, DecidableEq

namespace Flag

/-- How an option is written, each way with the option, in the order of the help text. -/
def spellings : List (String × Flag) :=
  [("-h", .help), ("--help", .help), ("--input", .input), ("--out", .out),
    ("--flow-segue-kind", .flowSegueKind), ("--no-copy", .noCopy), ("-v", .verbose),
    ("--verbose", .verbose)]

/-- An option by all its spellings. -/
def title (f : Flag) : String :=
  "/".intercalate ((spellings.filter fun s => s.2 = f).map Prod.fst)

def takesValue : Flag → Bool
  | .input | .out | .flowSegueKind => true
  | _ => false

def ofSpelling? (s : List Char) : Option Flag := spellings.lookup (String.ofList s)

end Flag

/-- Why arguments cannot be used. -/
inductive Misuse where
  | ambiguous (argument : String) (candidates : List String)
  | valueMissing (flag : Flag)
  | valueUnwanted (flag : Flag) (value : String)
  | unrecognized (arguments : List String)
  deriving Repr, DecidableEq

def Misuse.text : Misuse → String
  | .ambiguous argument candidates =>
    "ambiguous option: " ++ argument ++ " could match " ++ ", ".intercalate candidates
  | .valueMissing flag => "argument " ++ flag.title ++ ": expected one argument"
  | .valueUnwanted flag value =>
    "argument " ++ flag.title ++ ": ignored explicit argument " ++ quoted value
  | .unrecognized arguments => "unrecognized arguments: " ++ " ".intercalate arguments

/-! ## What an argument looks like -/

/-- What is written in one argument behind an option. -/
inductive Tail where
  | nothing
  /-- What is behind an equals sign. -/
  | value (s : List Char)
  /-- Further characters behind a short option. -/
  | letters (s : List Char)
  deriving Repr, DecidableEq

inductive Argument where
  | option (flag : Flag) (tail : Tail)
  /-- Looks like an option, though there is no such option. -/
  | stranger
  /-- Can be the value of an option. -/
  | plain
  /-- The bare double hyphen. -/
  | separator
  deriving Repr, DecidableEq

/-- A negative number, which is a value rather than an option. One line feed may follow. -/
def isNegativeNumber (s : List Char) : Bool :=
  match s with
  | '-' :: number =>
    let number := if number.getLast? = some '\n' then number.dropLast else number
    let whole := number.takeWhile isDecimalDigit
    match number.dropWhile isDecimalDigit with
    | [] => !whole.isEmpty
    | '.' :: fraction => !fraction.isEmpty && fraction.all isDecimalDigit
    | _ => false
  | _ => false

/-- An argument, cut at its first equals sign. -/
def cutAtEquals (s : List Char) : List Char × Tail :=
  match s.dropWhile (· != '=') with
  | [] => (s, .nothing)
  | _ :: value => (s.takeWhile (· != '='), .value value)

/-- The options that a beginning in long form can mean. -/
def longCandidates (s : List Char) : List (String × Flag) :=
  Flag.spellings.filter fun spelling => (cutAtEquals s).1.isPrefixOf spelling.1.toList

/-- What an argument looks like that starts with a hyphen and is not a full spelling. -/
def classifyOption (s : List Char) : Except Misuse Argument :=
  let neither : Argument :=
    if isNegativeNumber s || s.contains ' ' then .plain else .stranger
  match s with
  | '-' :: '-' :: _ =>
    match longCandidates s with
    | [] => .ok neither
    | [(_, flag)] => .ok (.option flag (cutAtEquals s).2)
    | candidates => .error (.ambiguous (String.ofList s) (candidates.map Prod.fst))
  | '-' :: c :: more =>
    match Flag.ofSpelling? ['-', c] with
    | some flag => .ok (.option flag (.letters more))
    | none => .ok neither
  | _ => .ok .plain

/-- What stands behind an option: behind a short one, an equals sign makes no difference. -/
def tailBehind (name : List Char) : Tail → Tail
  | .value (c :: s) => if ['-', '-'].isPrefixOf name then .value (c :: s) else .letters (c :: s)
  | tail => tail

/-- What an argument looks like. -/
def classify (argument : String) : Except Misuse Argument :=
  let s := argument.toList
  if s.head? != some '-' then .ok .plain
  else
    let (name, tail) := cutAtEquals s
    match Flag.ofSpelling? name with
    | some flag => .ok (.option flag (tailBehind name tail))
    | none => classifyOption s

/-- The arguments with what they look like; behind a bare double hyphen all are plain. -/
def classifyAll : List String → Except Misuse (List (String × Argument))
  | [] => .ok []
  | a :: rest =>
    if a = "--" then .ok ((a, .separator) :: rest.map fun b => (b, .plain))
    else do
      let looks ← classify a
      return (a, looks) :: (← classifyAll rest)

/-! ## Using up the arguments -/

structure Options where
  input : Option String
  out : Option String
  /-- The accepted kinds of segue, if any are given. -/
  flowSegueKinds : List String
  noCopy : Bool
  verbose : Bool
  deriving Repr, DecidableEq

namespace Options

def none : Options := ⟨.none, .none, [], false, false⟩

/-- An option that takes no value. Asking for help ends the reading. -/
def switch (o : Options) : Flag → Option Options
  | .help => .none
  | .noCopy => some { o with noCopy := true }
  | .verbose => some { o with verbose := true }
  | _ => some o

/-- An option with its value. -/
def set (o : Options) (flag : Flag) (value : String) : Options :=
  match flag with
  | .input => { o with input := some value }
  | .out => { o with out := some value }
  | .flowSegueKind => { o with flowSegueKinds := o.flowSegueKinds ++ [value] }
  | _ => o

end Options

/-- What a command line asks for. -/
inductive Request where
  | help
  | convert (options : Options)
  deriving Repr, DecidableEq

/-- The short options that are written together: `flag` and those of the letters behind it. -/
def cluster (flag : Flag) : List Char → Except Misuse (List Flag)
  | [] => .ok [flag]
  | c :: rest =>
    match Flag.ofSpelling? ['-', c] with
    | some next => do return flag :: (← cluster next rest)
    | none => .error (.valueUnwanted flag (String.ofList (c :: rest)))

/-- The options without a value that an argument consists of. -/
def switchesOf (flag : Flag) : Tail → Except Misuse (List Flag)
  | .nothing => .ok [flag]
  | .value s => .error (.valueUnwanted flag (String.ofList s))
  | .letters s => cluster flag s

/-- The value of an option in its own argument. -/
def Tail.value? : Tail → Option String
  | .nothing => .none
  | .value s | .letters s => some (String.ofList s)

/-- Uses up arguments; `extras` holds those that were not recognised, last first. -/
def useUp (o : Options) (extras : List String) :
    List (String × Argument) → Except Misuse Request
  | [] => if extras.isEmpty then .ok (.convert o) else .error (.unrecognized extras.reverse)
  | (_, .option flag tail) :: rest =>
    if flag.takesValue then
      match tail.value?, rest with
      | some v, rest => useUp (o.set flag v) extras rest
      | .none, (v, .plain) :: rest => useUp (o.set flag v) extras rest
      | .none, _ => .error (.valueMissing flag)
    else do
      match (← switchesOf flag tail).foldlM Options.switch o with
      | some o => useUp o extras rest
      | .none => return .help
  | (a, _) :: rest => useUp o (a :: extras) rest

/-- What the arguments ask for. Mirrors the parser that `build_arg_parser` builds. -/
def Request.ofArguments (arguments : List String) : Except Misuse Request := do
  useUp Options.none [] (← classifyAll arguments)

end Storyboard
