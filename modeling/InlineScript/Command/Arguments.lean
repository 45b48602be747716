/-!
The arguments of the program.
-/

namespace InlineScript

inductive Job where
  /-- Says what is wrong with files. -/
  | check (files : List String) (json : Bool)
  /-- Formats the scripts of files. -/
  | format (files : List String) (write : Bool)
  /-- Serves an editor. -/
  | serve
deriving DecidableEq, Repr

inductive Command where
  | version
  | run (workspace : Option String) (job : Job)
deriving DecidableEq, Repr

namespace Command

/-- What an argument, or an option with its value, stands for. -/
inductive Word where
  | workspace (dir : String)
  | version
  | flag (name : String)
  | plain (text : String)
  /-- What follows `--` is never an option. -/
  | escaped (text : String)
  | malformed
deriving DecidableEq, Repr

/-- How an argument is read by itself. -/
inductive Shape where
  | word (word : Word)
  /-- The next argument is the value. -/
  | needsDirectory
  | escape
deriving DecidableEq, Repr

/-- The value that is attached to the letter of an option, after an equals sign or directly. -/
def attachedValue : List Char → String
  | '=' :: value => String.ofList value
  | value => String.ofList value

/-- A long option: its name, and its value after an equals sign. -/
def longShape (text : List Char) : Shape :=
  let name := String.ofList (text.takeWhile (· != '='))
  match name, text.dropWhile (· != '=') with
  | "workspace", _ :: value => .word (.workspace (String.ofList value))
  | "workspace", [] => .needsDirectory
  | "version", [] => .word .version
  | _, [] => .word (.flag name)
  | _, _ => .word .malformed

def shortShape (text : List Char) : Shape :=
  match text with
  | ['w'] => .needsDirectory
  | 'w' :: value => .word (.workspace (attachedValue value))
  | 'V' :: _ => .word .version
  | _ => .word .malformed

def shape (argument : String) : Shape :=
  match argument.toList with
  | ['-', '-'] => .escape
  | '-' :: '-' :: text => longShape text
  | ['-'] => .word (.plain argument)
  | '-' :: text => shortShape text
  | _ => .word (.plain argument)

/-- Whether an argument can be the value of an option before it. -/
def isValue (argument : String) : Bool :=
  match shape argument with
  | .word (.plain _) => true
  | _ => false

/-- The words of arguments. -/
def words : List String → List Word
  | [] => []
  | [argument] =>
      match shape argument with
      | .word word => [word]
      | .needsDirectory => [.malformed]
      | .escape => []
  | argument :: value :: rest =>
      match shape argument with
      | .word word => word :: words (value :: rest)
      | .needsDirectory =>
          if isValue value then .workspace value :: words rest else [.malformed]
      | .escape => (value :: rest).map .escaped

/-- What was read of the arguments of a job. -/
structure Given where
  workspace : Option String := none
  flag : Bool := false
  files : List String := []

/-- Reads the words after the name of a job. An option is given once, and no word is empty. -/
def given? (flag : Option String) (takesFiles : Bool) : Given → List Word → Option Given
  | given, [] => some given
  | given, word :: rest =>
      match word with
      | .workspace dir =>
          if given.workspace.isSome || dir.isEmpty then none
          else given? flag takesFiles { given with workspace := some dir } rest
      | .flag name =>
          if some name = flag && !given.flag then
            given? flag takesFiles { given with flag := true } rest
          else none
      | .plain text | .escaped text =>
          if takesFiles && !text.isEmpty then
            given? flag takesFiles { given with files := given.files ++ [text] } rest
          else none
      | .version | .malformed => none

/-- A job with files, of which there has to be one. -/
def withFiles? (flag : String) (job : List String → Bool → Job) (outer : Option String)
    (words : List Word) : Option Command := do
  let given ← given? (some flag) true {} words
  if given.files.isEmpty then none
  else some (.run (given.workspace.or outer) (job given.files given.flag))

/-- Reads words up to the name of a job, and the job. A directory given after the name counts
more than one before it. -/
def ofWords? (outer : Option String) : List Word → Option Command
  | [] => none
  | .workspace dir :: rest =>
      if outer.isSome || dir.isEmpty then none else ofWords? (some dir) rest
  | .version :: _ => some .version
  | .plain "check" :: rest => withFiles? "json" .check outer rest
  | .plain "format" :: rest => withFiles? "write" .format outer rest
  | .plain "lsp" :: rest =>
      (given? none false {} rest).map fun given => .run (given.workspace.or outer) .serve
  | _ :: _ => none

/-- The command that arguments give, unless they are misused. -/
def ofArguments? (arguments : List String) : Option Command :=
  ofWords? none (words arguments)

end Command

end InlineScript
