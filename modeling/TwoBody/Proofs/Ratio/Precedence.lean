import TwoBody.Proofs.Ratio.Level

/-!
Precedence: an expression is read as the tree that its operators stand for.

A tree has four levels of operators. Products are divided, the fractions are subtracted, and the
differences are added up. Each level groups its members to the left.
-/

namespace TwoBody

namespace Ratio

/-- One or more members of a level, in order. -/
structure Chain (α : Type) where
  /-- The member that stands first. -/
  first : α
  /-- The members after it. -/
  others : List α

namespace Chain

variable {α : Type}

/-- All members, in order. -/
def members (chain : Chain α) : List α :=
  chain.first :: chain.others

/-- The texts of the members with a symbol between them. -/
def text (symbol : Char) (write : α → List Char) (chain : Chain α) : List Char :=
  write chain.first ++ chain.others.flatMap fun member => symbol :: write member

/-- The values of the members, combined from the first one on. -/
def value (combine : Float → Float → Float) (valued : α → Float) (chain : Chain α) : Float :=
  chain.others.foldl (fun total member => combine total (valued member)) (valued chain.first)

end Chain

/-- A number as it is written, with or without white space around it. -/
structure Number where
  /-- The white space before the number. -/
  before : List Char
  /-- The text of the number itself. -/
  numeral : List Char
  /-- The white space behind the number. -/
  behind : List Char
  /-- The number that the text stands for. -/
  value : Float
  /-- Nothing but white space stands before the number. -/
  blank_before : ∀ character ∈ before, isBlank character
  /-- Nothing but white space stands behind the number. -/
  blank_behind : ∀ character ∈ behind, isBlank character
  /-- No character of the number stands for an operator. -/
  plain : ∀ character ∈ numeral, character ∉ ['+', '-', '/', '*']
  /-- The text is that of the number. -/
  reads : readFloat? numeral = some value

/-- A number with the white space around it. -/
def Number.text (number : Number) : List Char :=
  number.before ++ number.numeral ++ number.behind

/-- A number with white space on either side. -/
def Number.padded (numeral : List Char) (value : Float)
    (plain : ∀ character ∈ numeral, character ∉ ['+', '-', '/', '*'])
    (reads : readFloat? numeral = some value) : Number where
  before := ['\t', ' ']
  numeral := numeral
  behind := [' ', '\u2003']
  value := value
  blank_before := List.all_eq_true.mp (by decide)
  blank_behind := List.all_eq_true.mp (by decide)
  plain := plain
  reads := reads

/-- Numbers that are multiplied. -/
abbrev Product : Type := Chain Number

/-- Products that are divided. -/
abbrev Fraction : Type := Chain Product

/-- Fractions that are subtracted. -/
abbrev Difference : Type := Chain Fraction

/-- Differences that are added up: a whole expression. -/
abbrev Expression : Type := Chain Difference

/-- A product as it is written. -/
def Product.text : Product → List Char :=
  Chain.text '*' Number.text

/-- A fraction as it is written. -/
def Fraction.text : Fraction → List Char :=
  Chain.text '/' Product.text

/-- A difference as it is written. -/
def Difference.text : Difference → List Char :=
  Chain.text '-' Fraction.text

/-- An expression as it is written. -/
def Expression.text : Expression → List Char :=
  Chain.text '+' Difference.text

/-- The numbers of a product, multiplied from the first one on. -/
def Product.value : Product → Float :=
  Chain.value (· * ·) Number.value

/-- The first product of a fraction, divided by each of the others in turn. -/
def Fraction.value : Fraction → Float :=
  Chain.value (· / ·) Product.value

/-- The first fraction of a difference, less each of the others in turn. -/
def Difference.value : Difference → Float :=
  Chain.value (· - ·) Fraction.value

/-- The differences of an expression, added up from the first one on. -/
def Expression.value : Expression → Float :=
  Chain.value (· + ·) Difference.value

/-- No character of the text stands for one of the operators. -/
def Without (operators : List Operator) (text : List Char) : Prop :=
  -- Other operators may occur.
  ∀ operator ∈ operators, ∀ character ∈ text, operator.isSymbol character = false

/-- Without any operators, the value of a text is that of an operand. -/
theorem value_of_without {text : List Char} (without : Without Operator.all text) :
    value text = operand text := by
  refine value_of_none (List.find?_eq_none.mpr fun operator member => ?_)
  simpa using without operator member

/-- Operators with the same symbol are the same. -/
theorem symbol_injective {left right : Operator} (same : left.symbol = right.symbol) :
    left = right := by
  revert same
  cases left <;> cases right <;> decide

/-- No symbol of an operator is white space. -/
theorem isBlank_symbol (operator : Operator) : isBlank operator.symbol = false := by
  cases operator <;> decide

/-- A number is written without operators. -/
theorem without_number (number : Number) : Without Operator.all number.text := by
  intro operator _ character member
  rw [Operator.isSymbol, beq_eq_false_iff_ne]
  rintro rfl
  have solid := isBlank_symbol operator
  -- The symbol would be white space or a character of the number.
  rcases List.mem_append.mp member with front | behind
  · rcases List.mem_append.mp front with before | inside
    · exact absurd (number.blank_before _ before) (by simp [solid])
    · exact number.plain _ inside (by cases operator <;> decide)
  · exact absurd (number.blank_behind _ behind) (by simp [solid])

/-- The value of a number is the one that it stands for. -/
theorem value_number (number : Number) : value number.text = .ok number.value := by
  have trimmed : trim number.text = number.numeral :=
    trim_surrounded number.blank_before (noBlank_of_readFloat? number.reads) number.blank_behind
  rw [value_of_without (without_number number)]
  exact operand_of_number (trimmed ▸ number.reads)

namespace Chain

variable {α : Type} {write : α → List Char}

/-- The operands of a chain are the texts of its members. -/
theorem operands_text {operator : Operator} (plain : ∀ member, Without [operator] (write member))
    (chain : Chain α) :
    operator.operands (chain.text operator.symbol write) = chain.members.map write := by
  obtain ⟨first, others⟩ := chain
  have solid (member : α) := plain member operator List.mem_cons_self
  -- The induction is on the members after the first one.
  induction others generalizing first with
  | nil =>
    have whole : text operator.symbol write ⟨first, []⟩ = write first := by simp [text]
    rw [whole]
    exact cut_of_forall_not (solid first)
  | cons next rest ih =>
    have separates : operator.isSymbol operator.symbol := by simp [Operator.isSymbol]
    have step := cut_append_cons (solid first) separates
      (write next ++ rest.flatMap fun member => operator.symbol :: write member)
    exact step.trans (congrArg (write first :: ·) (ih next))

/-- A chain is written without the operators that no member is written with. -/
theorem without_text {looser : List Operator} (operator : Operator) (fresh : operator ∉ looser)
    (plain : ∀ member, Without looser (write member)) (chain : Chain α) :
    Without looser (chain.text operator.symbol write) := by
  -- Between the texts of the members, there is only the symbol of another operator.
  intro other listed character member
  have different : other.isSymbol operator.symbol = false := by
    rw [Operator.isSymbol, beq_eq_false_iff_ne]
    exact fun same => fresh (symbol_injective same ▸ listed)
  rcases List.mem_append.mp member with first | rest
  · exact plain chain.first other listed character first
  · obtain ⟨next, -, inside⟩ := List.mem_flatMap.mp rest
    rcases List.mem_cons.mp inside with rfl | inside
    · exact different
    · exact plain next other listed character inside

/-- The members of a chain are read as their values. -/
theorem mapM_members {valued : α → Float}
    (reads : ∀ member, Ratio.value (write member) = .ok (valued member)) (chain : Chain α) :
    (chain.members.map write).mapM Ratio.value = .ok (chain.members.map valued) := by
  -- The induction is on the members, of which there is at least one to begin with.
  generalize chain.members = members
  induction members with
  | nil => rfl
  | cons member rest ih =>
    rw [List.map_cons, List.mapM_cons, reads, ih]
    rfl

/-- Folding the values of the members combines them from the first one on. -/
theorem fold_members (operator : Operator) (valued : α → Float) (chain : Chain α) :
    operator.fold (chain.members.map valued) = chain.value operator.apply valued := by
  simp [members, Operator.fold, value, List.foldl_map]

/--
A chain is read as its value.

Its members have to be read as theirs, and to be written without its operator and the looser ones.
-/
theorem value_text (looser : List Operator) (operator : Operator) {tighter : List Operator}
    (order : Operator.all = looser ++ operator :: tighter) {valued : α → Float}
    (plain : ∀ member, Without (looser ++ [operator]) (write member))
    (reads : ∀ member, Ratio.value (write member) = .ok (valued member)) (chain : Chain α) :
    Ratio.value (chain.text operator.symbol write) = .ok (chain.value operator.apply valued) := by
  -- The operands are the texts of the members, even where the chain has no symbol at all.
  have fresh : operator ∉ looser := by
    have distinct : Operator.all.Nodup := by decide
    rw [order] at distinct
    exact fun member =>
      (List.nodup_append.mp distinct).2.2 operator member operator List.mem_cons_self rfl
  have absent := without_text operator fresh (fun member other listed =>
    plain member other (List.mem_append_left _ listed)) chain
  rw [value_of_absent order (by simpa [Without] using absent), operands_text, mapM_members reads]
  · exact congrArg Except.ok (fold_members operator valued chain)
  · exact fun member other listed => plain member other (List.mem_append_right _ listed)

end Chain

/-- The value of a product is read from its text. -/
theorem value_product (product : Product) : value product.text = .ok product.value :=
  product.value_text [.plus, .minus, .dividedBy] .times rfl without_number value_number

/-- A product is written without looser operators. -/
theorem without_product (product : Product) :
    Without [.plus, .minus, .dividedBy] product.text :=
  product.without_text .times (by decide) fun number other listed =>
    without_number number other (List.mem_append_left [.times] listed)

/-- The value of a fraction is read from its text. -/
theorem value_fraction (fraction : Fraction) : value fraction.text = .ok fraction.value :=
  fraction.value_text [.plus, .minus] .dividedBy rfl without_product value_product

/-- A fraction is written without looser operators. -/
theorem without_fraction (fraction : Fraction) : Without [.plus, .minus] fraction.text :=
  fraction.without_text .dividedBy (by decide) fun product other listed =>
    without_product product other (List.mem_append_left [.dividedBy] listed)

/-- The value of a difference is read from its text. -/
theorem value_difference (difference : Difference) :
    value difference.text = .ok difference.value :=
  difference.value_text [.plus] .minus rfl without_fraction value_fraction

/-- A difference is written without looser operators. -/
theorem without_difference (difference : Difference) : Without [.plus] difference.text :=
  difference.without_text .minus (by decide) fun fraction other listed =>
    without_fraction fraction other (List.mem_append_left [.minus] listed)

end Ratio

/--
An expression is read as the value of its tree.

Of the operators in it, multiplication binds the tightest. Then comes division, then subtraction and
addition last of all, and each of them groups its operands to the left.
-/
theorem readRatio_expression (expression : Ratio.Expression) :
    readRatio (String.ofList expression.text) = .ok expression.value := by
  -- The levels below are read by the same lemma, each with its own operator.
  rw [readRatio, String.toList_ofList]
  exact Ratio.Chain.value_text [] .plus rfl Ratio.without_difference Ratio.value_difference
    expression

/--
Division does not bind as tightly as multiplication, and differences group to the left, whatever
white space there is around the numbers.
-/
theorem readRatio_expression_mixed :
    readRatio "\t 8 \u2003-\t 2 \u2003-\t 1 \u2003+\t 1 \u2003/\t 2 \u2003*\t 4 \u2003" =
      .ok (((8 - 2) - 1) + 1 / (2 * 4)) :=
  readRatio_expression
    -- The first difference has three fractions, and the second one is a fraction of two products.
    ⟨⟨⟨⟨.padded ['8'] 8 (by simp) (by decide +kernel), []⟩, []⟩,
        [⟨⟨.padded ['2'] 2 (by simp) (by decide +kernel), []⟩, []⟩,
          ⟨⟨.padded ['1'] 1 (by simp) (by decide +kernel), []⟩, []⟩]⟩,
      [⟨⟨⟨.padded ['1'] 1 (by simp) (by decide +kernel), []⟩,
        [⟨.padded ['2'] 2 (by simp) (by decide +kernel),
          [.padded ['4'] 4 (by simp) (by decide +kernel)]⟩]⟩, []⟩]⟩

end TwoBody
