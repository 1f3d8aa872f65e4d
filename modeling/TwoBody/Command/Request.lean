/-! What a command line asks for. -/

namespace TwoBody

/-- The options and arguments of a command that computes an orbit. -/
structure Options where
  /-- The arguments that are bindings, in order. -/
  bindings : List String
  /-- The arguments of an insertion orbit, if the option for it is given. -/
  insertion : Option (List String)
  /-- Whether the result is printed as JSON. -/
  json : Bool
  deriving DecidableEq, Repr

/-- What a command line asks for. -/
inductive Request where
  /-- Print the version of the program. -/
  | version
  /-- Print the help. -/
  | help
  /-- Compute an orbit. -/
  | solve (options : Options)
  deriving DecidableEq, Repr

namespace Options

/-- The options of an empty command line. -/
def empty : Options :=
  ⟨[], none, false⟩

/-- Adds one more argument that is a binding. -/
def withBinding (options : Options) (word : String) : Options :=
  { options with bindings := options.bindings ++ [word] }

/-- Adds arguments to those of the insertion orbit. -/
def withInsertion (options : Options) (arguments : List String) : Options :=
  { options with insertion := some (options.insertion.getD [] ++ arguments) }

/-- Bindings and an insertion orbit exclude each other. -/
def consistent (options : Options) : Bool :=
  options.bindings.isEmpty || options.insertion.isNone

end Options

namespace Request

/-- Whether a word is an option: it begins with a dash, and there is more to it. -/
def isOption (word : String) : Bool :=
  match word.toList with
  | '-' :: _ :: _ => true
  | _ => false

/-- Whether a word is the short option with this letter, whatever letters follow it. -/
def isShort (letter : Char) (word : String) : Bool :=
  ['-', letter].isPrefixOf word.toList

/-- The fewest arguments of one insertion option. -/
def leastArguments : Nat := 2

/-- The most arguments of one insertion option; a word after them is a binding. -/
def mostArguments : Nat := 3

/--
The number of words that the last insertion option has taken so far, while it can take more.

The option is complete when it has enough of them, or when there is no such option.
-/
abbrev Taken : Type :=
  Option Nat

/-- Whether another option, or the end of the words, may follow. -/
def Taken.complete : Taken → Bool
  | none => true
  | some count => leastArguments ≤ count

/-- What the options come to once all words are read. -/
def settle (options : Options) : Option Request :=
  if options.consistent then some (.solve options) else none

/-- Reads the words after those that gave `options`; wrong usage gives nothing. -/
def read (options : Options) (taken : Taken) : List String → Option Request
  | [] => if taken.complete then settle options else none
  | word :: rest =>
    if isOption word then
      if !taken.complete then none
      else if word = "--" then
        settle { options with bindings := options.bindings ++ rest }
      else if word = "--json" then
        if options.json then none else read { options with json := true } none rest
      else if word = "-d" ∨ word = "--deploy-orbit" then
        read (options.withInsertion []) (some 0) rest
      -- These two are obeyed at once, whatever words follow.
      else if word = "--version" ∨ isShort 'V' word then some .version
      else if word = "--help" ∨ isShort 'h' word then some .help
      else none
    else
      match taken with
      | some count =>
        if count < mostArguments then
          read (options.withInsertion [word]) (some (count + 1)) rest
        else read (options.withBinding word) none rest
      | none => read (options.withBinding word) none rest

/-- The request of a command line, unless it is used wrongly. -/
def ofWords? (words : List String) : Option Request :=
  read Options.empty none words

end Request

end TwoBody
