import BridgeView.Text.Numeral

/-!
# Command line arguments

The arguments of a command are options with a value, written with an equals sign or with
the value as the next argument; flags, which are present or not; and free words.  An
unknown option, an option or a flag that is given twice, a value for a flag and an option
without a value are refused.  Two dashes alone make everything after them free words.
-/

namespace BridgeView

/-- The options and flags that a command knows. -/
structure ArgumentForm where
  /-- The options that take a value. -/
  options : List String := []
  flags : List String := []
deriving Repr, Inhabited

/-- The arguments of a command. -/
structure Arguments where
  values : List (String × String) := []
  flags : List String := []
  words : List String := []
deriving DecidableEq, Repr, Inhabited

namespace Arguments

/-- What one argument is. -/
inductive Shape where
  /-- The end of options and flags. -/
  | end
  /-- An option or a flag, possibly with a value. -/
  | named (name : String) (value? : Option String)
  | word
  /-- Something that is refused everywhere. -/
  | refused
deriving DecidableEq, Repr, Inhabited

/-- What an argument is by its dashes and its first equals sign. -/
def shape (argument : String) : Shape :=
  match argument.toList with
  | ['-', '-'] => .end
  | '-' :: '-' :: body =>
    let name := body.takeWhile (· != '=')
    match body.drop name.length with
    | [] => .named (String.ofList name) none
    | _ :: value => .named (String.ofList name) (some (String.ofList value))
  | ['-'] => .word
  | '-' :: _ => .refused
  | _ => .word

/-- The arguments with one more option, unless it was given before. -/
def addValue? (arguments : Arguments) (name value : String) : Option Arguments :=
  if (arguments.values.lookup name).isSome then none
  else some { arguments with values := arguments.values ++ [(name, value)] }

/-- The arguments with one more flag, unless it was given before. -/
def addFlag? (arguments : Arguments) (name : String) : Option Arguments :=
  if arguments.flags.contains name then none
  else some { arguments with flags := arguments.flags ++ [name] }

/-- Reads arguments after those that were read already. -/
def readFrom (form : ArgumentForm) (arguments : Arguments) : List String → Option Arguments
  | [] => some arguments
  | argument :: rest =>
    match shape argument with
    | .end => some { arguments with words := arguments.words ++ rest }
    | .word => readFrom form { arguments with words := arguments.words ++ [argument] } rest
    | .refused => none
    | .named name (some value) =>
      if form.options.contains name then do
        readFrom form (← arguments.addValue? name value) rest
      else none
    | .named name none =>
      if form.flags.contains name then do
        readFrom form (← arguments.addFlag? name) rest
      else if form.options.contains name then
        match rest with
        | value :: rest =>
          if shape value = .word then do
            readFrom form (← arguments.addValue? name value) rest
          else none
        | [] => none
      else none

/-- The arguments that a list of words gives, if it has the form. -/
def read (form : ArgumentForm) (arguments : List String) : Option Arguments :=
  readFrom form {} arguments

/-- Reads the arguments of a command that takes no free words. -/
def readWordless (form : ArgumentForm) (arguments : List String) : Option Arguments :=
  (read form arguments).filter (·.words.isEmpty)

/-- The value of an option, by its name. -/
def value? (arguments : Arguments) (name : String) : Option String :=
  arguments.values.lookup name

/-- The value of an option that has to be a decimal numeral of sixteen bits, of which zero
may carry a minus sign; nothing is accepted in its place. -/
def number? (arguments : Arguments) (name : String) : Option (Option UInt16) :=
  match arguments.value? name with
  | none => some none
  | some text => (Text.signedDecimal? 65535 text).map (some ∘ UInt16.ofNat)

/-- Whether a flag is given. -/
def has (arguments : Arguments) (name : String) : Bool :=
  arguments.flags.contains name

end Arguments

end BridgeView
