import Kaleidoscope.Proofs.Node.Subtrees
import Kaleidoscope.Proofs.Number.Plain
import Kaleidoscope.Proofs.Text.Discerns
import Mathlib.Data.List.Basic

/-! The compact form of trees.

Every tree begins with a word for its kind, and everything in it ends in front of a comma or a bracket, so
no text of a tree is the beginning of another one.

Main statement: lists of trees with the same compact lines are the same.
-/

set_option autoImplicit false

namespace Kaleidoscope

open Text (Discerns Stops Begun comma closed stops_cons)

/-- Words that are formed as names are; reserved words are among them. -/
structure IsWord (word : String) : Prop where
  begins : word.toList.head?.any Lexeme.isWordStart = true
  goesOn : ∀ char ∈ word.toList, Lexeme.isWordPart char = true

theorem IsWord.plain {word : String} (isWord : IsWord word) :
    ∀ char ∈ word.toList, char ∉ [',', ')', ']'] := by
  have noParts : ∀ char ∈ [',', ')', ']'], Lexeme.isWordPart char = false :=
    List.forall_iff_forall_mem.mp (by decide +kernel)
  intro char member stop
  exact absurd (isWord.goesOn char member) (by simp [noParts char stop])

namespace Node

/-- The root of the tree has names and numbers that the compact form can show. -/
structure Printable (node : Node) : Prop where
  names : ∀ name ∈ node.names, IsWord name
  numbers : ∀ value ∈ node.numbers, value.isNaN = false

/-- What the compact form of a tree begins with. -/
def tag : Node → String
  | .number _ => "Number("
  | .identifier _ => "Identifier("
  | .binary .. => "BinaryOp("
  | .call .. => "FunctionCall("
  | .conditional .. => "IfExpr("
  | .definition .. => "FunctionDef("
  | .declaration _ => "ExternDecl("

def compactText (node : Node) : List Char := node.compact.toList

def inner : Node → List Char
  | .number value => value.plainText.toList ++ [')']
  | .identifier name => name.toList ++ [')']
  | .binary left op right =>
      left.compactText ++ (comma ++ ([op.symbol] ++ (comma ++ (right.compactText ++ [')']))))
  | .call callee arguments =>
      callee.toList ++ (comma ++ (['['] ++ (closed compactText arguments ++ [')'])))
  | .conditional condition consequent alternative =>
      condition.compactText ++ (comma ++ (consequent.compactText ++ (comma ++
        (alternative.compactText ++ [')']))))
  | .definition prototype body =>
      prototype.name.toList ++ (comma ++ (['['] ++ (closed String.toList prototype.parameters ++ (comma ++
        (body.compactText ++ [')'])))))
  | .declaration prototype =>
      prototype.name.toList ++ (comma ++ (['['] ++ (closed String.toList prototype.parameters ++ [')'])))

theorem compactEach_eq (nodes : List Node) : compactEach nodes = nodes.map compact := by
  induction nodes with
  | nil => rfl
  | cons node rest ih => exact congrArg (node.compact :: ·) ih

theorem toList_compactNames (names : List String) :
    (compactNames names).toList = ['['] ++ closed String.toList names := by
  simp [compactNames, closed, comma]

theorem closed_map_compact (nodes : List Node) :
    closed String.toList (nodes.map compact) = closed compactText nodes := by
  simp only [closed, List.map_map]
  rfl

theorem compactText_eq (node : Node) : node.compactText = node.tag.toList ++ node.inner := by
  have between : ", ".toList = comma := rfl
  have behind : ")".toList = [')'] := rfl
  have symbol (op : Operator) : op.text.toList = [op.symbol] := by simp [Operator.text]
  -- The text of each kind of tree is stated once more, since unfolding it takes much longer.
  cases node with
  | number value =>
    have text : (number value).compact = "Number(" ++ value.plainText ++ ")" := rfl
    simp only [compactText, text, tag, inner, String.toList_append, List.append_assoc, behind]
  | identifier name =>
    have text : (identifier name).compact = "Identifier(" ++ name ++ ")" := rfl
    simp only [compactText, text, tag, inner, String.toList_append, List.append_assoc, behind]
  | binary left op right =>
    have text : (binary left op right).compact =
      "BinaryOp(" ++ left.compact ++ ", " ++ op.text ++ ", " ++ right.compact ++ ")" := rfl
    simp only [compactText, text, tag, inner, String.toList_append, List.append_assoc, between, behind,
      symbol]
  | call callee arguments =>
    have text : (call callee arguments).compact =
      "FunctionCall(" ++ callee ++ ", " ++ compactNames (compactEach arguments) ++ ")" := rfl
    simp only [compactText, text, tag, inner, String.toList_append, List.append_assoc, between, behind,
      compactEach_eq, toList_compactNames, closed_map_compact]
  | conditional condition consequent alternative =>
    have text : (conditional condition consequent alternative).compact =
      "IfExpr(" ++ condition.compact ++ ", " ++ consequent.compact ++ ", " ++
        alternative.compact ++ ")" := rfl
    simp only [compactText, text, tag, inner, String.toList_append, List.append_assoc, between, behind]
  | definition prototype body =>
    have text : (definition prototype body).compact =
      "FunctionDef(" ++ prototype.name ++ ", " ++ compactNames prototype.parameters ++ ", " ++
        body.compact ++ ")" := rfl
    simp only [compactText, text, tag, inner, String.toList_append, List.append_assoc, between, behind,
      toList_compactNames]
  | declaration prototype =>
    have text : (declaration prototype).compact =
      "ExternDecl(" ++ prototype.name ++ ", " ++ compactNames prototype.parameters ++ ")" := rfl
    simp only [compactText, text, tag, inner, String.toList_append, List.append_assoc, between, behind,
      toList_compactNames]

def tags : List String :=
  ["Number(", "Identifier(", "BinaryOp(", "FunctionCall(", "IfExpr(", "FunctionDef(", "ExternDecl("]

theorem tag_mem_tags (node : Node) : node.tag ∈ tags := by
  cases node <;> simp [tag, tags]

theorem tag_inj {first second : Node} {rest rest' : List Char}
    (same : first.tag.toList ++ rest = second.tag.toList ++ rest') :
    first.tag = second.tag ∧ rest = rest' := by
  -- Both tags begin the same text, so one of them begins the other one.
  have apart : ∀ one ∈ tags, ∀ other ∈ tags, one.toList <+: other.toList → one = other := by decide
  have tags : first.tag = second.tag := by
    rcases List.prefix_or_prefix_of_prefix (List.prefix_append _ rest)
      (same ▸ List.prefix_append _ rest') with within | within
    · exact apart _ first.tag_mem_tags _ second.tag_mem_tags within
    · exact (apart _ second.tag_mem_tags _ first.tag_mem_tags within).symm
  rw [tags] at same
  exact ⟨tags, List.append_cancel_left same⟩

theorem begun_compactText (node : Node) : Begun compactText node := by
  have capital : ∀ tag ∈ tags, tag.toList.head?.any (· != ']') = true := by decide
  obtain ⟨char, first, other⟩ := (Option.any_eq_true ..).mp (capital _ node.tag_mem_tags)
  refine ⟨char, ?_, bne_iff_ne.mp other⟩
  rw [compactText_eq, List.head?_append, first]
  rfl

end Node

theorem IsWord.begun {word : String} (isWord : IsWord word) : Begun String.toList word := by
  have begins := isWord.begins
  cases first : word.toList.head? with
  | none => simp [first] at begins
  | some char =>
    rw [first] at begins
    refine ⟨char, first, ?_⟩
    rintro rfl
    revert begins
    decide +kernel

theorem discerns_words {first second : String} (left : IsWord first) (right : IsWord second) :
    Discerns String.toList Stops first second :=
  Text.discerns_of_plain left.plain right.plain String.toList_inj.mp

theorem discerns_names {names others : List String} (left : ∀ name ∈ names, IsWord name)
    (right : ∀ name ∈ others, IsWord name) :
    Discerns (closed String.toList) (fun _ => True) names others :=
  Text.discerns_closed (fun name member other member' => discerns_words (left name member)
    (right other member')) (fun name member => (left name member).begun)
    fun name member => (right name member).begun

theorem Binary64.discerns_plainText {first second : Binary64} (left : first.isNaN = false)
    (right : second.isNaN = false) :
    Discerns (fun value : Binary64 => value.plainText.toList) Stops first second := by
  have noParts : ∀ char ∈ [',', ')', ']'],
      ¬(Lexeme.isNumberPart char = true ∨ char ∈ ['-', 'i', 'n', 'f']) :=
    List.forall_iff_forall_mem.mp (by decide)
  exact Text.discerns_of_plain
    (fun char member stop => noParts char stop (Binary64.of_mem_plainText left member))
    (fun char member stop => noParts char stop (Binary64.of_mem_plainText right member))
    fun same => Binary64.plainText_injective left right (String.toList_inj.mp same)

theorem Operator.symbol_injective {first second : Operator} (same : first.symbol = second.symbol) :
    first = second := by
  have spelled := congrArg Operator.ofSymbol? same
  simpa [Operator.ofSymbol?_symbol] using spelled

theorem Text.stops_comma (rest : List Char) : Stops (comma ++ rest) := stops_cons (by decide) _

namespace Node

theorem discerns_prototype {first second : Prototype} {rest rest' : List Char}
    (left : ∀ name ∈ first.name :: first.parameters, IsWord name)
    (right : ∀ name ∈ second.name :: second.parameters, IsWord name)
    (same : first.name.toList ++ (comma ++ (['['] ++ (closed String.toList first.parameters ++ rest))) =
      second.name.toList ++ (comma ++ (['['] ++ (closed String.toList second.parameters ++ rest')))) :
    first = second ∧ rest = rest' := by
  obtain ⟨name, parameters⟩ := first
  obtain ⟨name', parameters'⟩ := second
  obtain ⟨isWord, areWords⟩ := List.forall_mem_cons.mp left
  obtain ⟨isWord', areWords'⟩ := List.forall_mem_cons.mp right
  obtain ⟨rfl, behind⟩ := (discerns_words isWord isWord').before Text.stops_comma same
  obtain ⟨rfl, rests⟩ := discerns_names areWords areWords' _ _ trivial trivial (List.cons.inj behind).2
  exact ⟨rfl, rests⟩

theorem discerns_inner {node other : Node} (here : Printable node) (here' : Printable other)
    (each : ∀ child ∈ node.children, ∀ child' ∈ other.children,
      Discerns compactText (fun _ => True) child child')
    (tags : node.tag = other.tag) {rest rest' : List Char}
    (same : node.inner ++ rest = other.inner ++ rest') : node = other ∧ rest = rest' := by
  have stops (rest : List Char) : Stops ([')'] ++ rest) := stops_cons (by decide) rest
  have before {child child' : Node} (member : child ∈ node.children) (member' : child' ∈ other.children)
      {between rest rest' : List Char}
      (same : child.compactText ++ (between ++ rest) = child'.compactText ++ (between ++ rest')) :
      child = child' ∧ rest = rest' :=
    (each child member child' member').before (fun _ => trivial) same
  -- Trees with the same tag are of the same kind, so their parts stand in the same places.
  cases node with
  | number value =>
    cases other with
    | number value' =>
      simp only [inner, List.append_assoc] at same
      obtain ⟨rfl, rests⟩ := (Binary64.discerns_plainText (here.numbers value (by simp [numbers]))
        (here'.numbers value' (by simp [numbers]))).before stops same
      exact ⟨rfl, rests⟩
    | _ => simp [tag] at tags
  | identifier name =>
    cases other with
    | identifier name' =>
      simp only [inner, List.append_assoc] at same
      obtain ⟨rfl, rests⟩ := (discerns_words (here.names name (by simp [names]))
        (here'.names name' (by simp [names]))).before stops same
      exact ⟨rfl, rests⟩
    | _ => simp [tag] at tags
  | binary leftNode op rightNode =>
    cases other with
    | binary leftNode' op' rightNode' =>
      simp only [inner, List.append_assoc] at same
      obtain ⟨rfl, behind⟩ := before (by simp [children]) (by simp [children]) same
      obtain ⟨symbols, behind⟩ := List.cons.inj behind
      obtain ⟨rfl, rests⟩ := before (by simp [children]) (by simp [children])
        (List.append_cancel_left behind)
      rw [Operator.symbol_injective symbols]
      exact ⟨rfl, rests⟩
    | _ => simp [tag] at tags
  | call callee arguments =>
    cases other with
    | call callee' arguments' =>
      simp only [inner, List.append_assoc] at same
      obtain ⟨rfl, behind⟩ := (discerns_words (here.names callee (by simp [names]))
        (here'.names callee' (by simp [names]))).before Text.stops_comma same
      have list := Text.discerns_closed
        (fun child member child' member' => (each child member child' member').mono fun _ _ => trivial)
        (fun child _ => child.begun_compactText) fun child _ => child.begun_compactText
      obtain ⟨rfl, rests⟩ := list.before (fun _ => trivial) (List.cons.inj behind).2
      exact ⟨rfl, rests⟩
    | _ => simp [tag] at tags
  | conditional condition consequent alternative =>
    cases other with
    | conditional condition' consequent' alternative' =>
      simp only [inner, List.append_assoc] at same
      obtain ⟨rfl, behind⟩ := before (by simp [children]) (by simp [children]) same
      obtain ⟨rfl, last⟩ := before (by simp [children]) (by simp [children]) behind
      obtain ⟨rfl, rests⟩ := before (by simp [children]) (by simp [children]) last
      exact ⟨rfl, rests⟩
    | _ => simp [tag] at tags
  | definition prototype body =>
    cases other with
    | definition prototype' body' =>
      simp only [inner, List.append_assoc] at same
      obtain ⟨rfl, behind⟩ := discerns_prototype here.names here'.names same
      obtain ⟨rfl, rests⟩ := before (by simp [children]) (by simp [children])
        (List.append_cancel_left behind)
      exact ⟨rfl, rests⟩
    | _ => simp [tag] at tags
  | declaration prototype =>
    cases other with
    | declaration prototype' =>
      simp only [inner, List.append_assoc] at same
      obtain ⟨rfl, behind⟩ := discerns_prototype here.names here'.names same
      exact ⟨rfl, List.append_cancel_left behind⟩
    | _ => simp [tag] at tags

theorem discerns_compact (node other : Node) (left : node.Everywhere Printable)
    (right : other.Everywhere Printable) : Discerns compactText (fun _ => True) node other := by
  -- The second tree has the tag of the first one, so it is of the same kind.
  induction node using induction_children generalizing other with
  | step node ih =>
    intro rest rest' _ _ same
    obtain ⟨here, below⟩ := everywhere_iff.mp left
    obtain ⟨here', below'⟩ := everywhere_iff.mp right
    rw [compactText_eq, compactText_eq, List.append_assoc, List.append_assoc] at same
    obtain ⟨tags, same⟩ := tag_inj same
    have each (child : Node) (member : child ∈ node.children) (child' : Node)
        (member' : child' ∈ other.children) : Discerns compactText (fun _ => True) child child' :=
      ih child member child' (below child member) (below' child' member')
    exact discerns_inner here here' each tags same

/-- The lines that trees are written on. -/
def compactLines (nodes : List Node) : String := String.join (nodes.map (·.compact ++ "\n"))

theorem toList_compactLines (nodes : List Node) :
    (compactLines nodes).toList = nodes.flatMap fun node => node.compactText ++ ['\n'] := by
  induction nodes with
  | nil => rfl
  | cons node rest ih =>
    have lines : compactLines (node :: rest) = node.compact ++ "\n" ++ compactLines rest :=
      String.join_cons
    have ending : "\n".toList = ['\n'] := rfl
    rw [lines, String.toList_append, String.toList_append, ih, ending]
    rfl

theorem compactLines_injective {nodes others : List Node}
    (left : ∀ node ∈ nodes, node.Everywhere Printable)
    (right : ∀ node ∈ others, node.Everywhere Printable)
    (same : compactLines nodes = compactLines others) : nodes = others := by
  replace same := congrArg String.toList same
  rw [toList_compactLines, toList_compactLines] at same
  induction nodes generalizing others with
  | nil =>
    cases others with
    | nil => rfl
    | cons other others => simp at same
  | cons node nodes ih =>
    cases others with
    | nil => simp at same
    | cons other others =>
      obtain ⟨first, more⟩ := List.forall_mem_cons.mp left
      obtain ⟨first', more'⟩ := List.forall_mem_cons.mp right
      simp only [List.flatMap_cons, List.append_assoc] at same
      obtain ⟨rfl, behind⟩ := (discerns_compact node other first first').before (fun _ => trivial) same
      rw [ih more more' behind]

end Node

end Kaleidoscope
