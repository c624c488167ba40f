import Swarmkeeper.Address.Socket
import Swarmkeeper.CommandLine.LogLevel

/-!
How arguments are read. An option is written with two dashes and its name, or with one dash and its
letter; its value is attached, after an equals sign or after the letter, or it is the next argument. The
value of an option is looked at only when the next option begins or the arguments end. Two dashes alone
end the options, and nothing may follow them.
-/

namespace Swarmkeeper.CommandLine

/-- What values an option takes. -/
inductive Form where
  | text
  /-- A path, which is not empty. -/
  | path
  | socket
  | level
deriving DecidableEq, Repr

/-- A value of this form. -/
def Form.admits (form : Form) (value : String) : Bool :=
  match form with
  | text => true
  | path => value ≠ ""
  | socket => (Socket.ofText? value).isSome
  | level => (LogLevel.ofName? false value).isSome

/-- An option; it always takes a value. -/
structure Flag where
  name : String
  letter : Option Char
  form : Form
  /-- The option may be given more than once. -/
  mayRepeat : Bool
  isRequired : Bool
deriving DecidableEq, Repr

/-- An option that may be left out and is given at most once. -/
def Flag.single (name : String) (letter : Option Char) (form : Form) : Flag :=
  ⟨name, letter, form, false, false⟩

/-- Why there is nothing to be done. -/
inductive Refusal where
  | usage
  /-- Help was asked for. -/
  | help
deriving DecidableEq, Repr

/-- What has been read: the values by name of their option in order, the option whose value has not been
looked at, and whether the options are over. -/
structure Reading where
  values : List (String × String)
  /-- The option and its value, once that has been read. -/
  current : Option (Flag × Option String)
  isOver : Bool
deriving DecidableEq

namespace Reading

/-- Nothing has been read. -/
def empty : Reading := ⟨[], none, false⟩

/-- The next argument is a value. -/
def isWaiting (r : Reading) : Bool :=
  match r.current with
  | some (_, none) => true
  | _ => false

/-- Takes a value of an option. -/
def accept (r : Reading) (flag : Flag) (value : String) : Except Refusal Reading :=
  if !flag.form.admits value then .error .usage
  else if !flag.mayRepeat && r.values.any (·.1 = flag.name) then .error .usage
  else .ok { r with values := r.values ++ [(flag.name, value)] }

/-- Looks at the value that has not been looked at. -/
def resolve (r : Reading) : Except Refusal Reading :=
  match r.current with
  | none => .ok r
  | some (_, none) => .error .usage
  | some (flag, some value) => { r with current := none }.accept flag value

/-- Begins an option, with the value that is attached to it, if one is. -/
def begin (r : Reading) (flag : Flag) (attached : Option String) : Except Refusal Reading := do
  let r ← r.resolve
  match attached with
  | some value => r.accept flag value
  | none => .ok { r with current := some (flag, none) }

/-- Help is asked for. -/
def askHelp (r : Reading) : Except Refusal Reading := do
  let _ ← r.resolve
  .error .help

/-- Reads an option that is written with its name. -/
def long (r : Reading) (flags : List Flag) (body : List Char) : Except Refusal Reading :=
  let name := String.ofList (body.takeWhile (· ≠ '='))
  let attached := match body.dropWhile (· ≠ '=') with
    | [] => none
    | _ :: value => some (String.ofList value)
  match flags.find? (·.name = name) with
  | some flag => r.begin flag attached
  | none => if name = "help" ∧ attached = none then r.askHelp else .error .usage

/-- The value after a letter; one equals sign may stand before it. -/
def afterLetter : List Char → Option String
  | [] => none
  | '=' :: value => some (String.ofList value)
  | value => some (String.ofList value)

/-- Reads an option that is written with its letter. -/
def short (r : Reading) (flags : List Flag) (letter : Char) (rest : List Char) :
    Except Refusal Reading :=
  match flags.find? (·.letter = some letter) with
  | some flag => r.begin flag (afterLetter rest)
  | none => if letter = 'h' then r.askHelp else .error .usage

/-- Reads an argument that is no option. -/
def plain (r : Reading) (arg : String) : Except Refusal Reading :=
  match r.current with
  | some (flag, none) => .ok { r with current := some (flag, some arg) }
  | _ => .error .usage

/-- Reads an argument. -/
def take (r : Reading) (flags : List Flag) (arg : String) : Except Refusal Reading :=
  if r.isOver then .error .usage
  else match arg.toList with
    | ['-', '-'] => .ok { r with isOver := true }
    | '-' :: '-' :: body => r.long flags body
    | '-' :: letter :: rest => r.short flags letter rest
    | _ => r.plain arg

/-- Reads arguments up to the first that names a command, where one may stand; gives that name and what
follows it. -/
def takeAll (flags : List Flag) (commands : List String) :
    Reading → List String → Except Refusal (Reading × Option (String × List String))
  | r, [] => .ok (r, none)
  | r, arg :: args =>
      if !r.isOver && !r.isWaiting && commands.contains arg then .ok (r, some (arg, args))
      else do
        let r ← r.take flags arg
        takeAll flags commands r args

/-- The arguments are over: no value may be missing, and no option that is required. -/
def finish (r : Reading) (flags : List Flag) : Except Refusal Reading := do
  let r ← r.resolve
  if flags.all fun f => !f.isRequired || r.values.any (·.1 = f.name) then .ok r else .error .usage

/-- The values of an option, in order. -/
def all (r : Reading) (name : String) : List String :=
  (r.values.filter (·.1 = name)).map (·.2)

/-- The value of an option that is given at most once. -/
def value? (r : Reading) (name : String) : Option String := r.values.lookup name

end Reading

end Swarmkeeper.CommandLine
