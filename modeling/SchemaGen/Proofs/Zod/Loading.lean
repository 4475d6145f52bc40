import SchemaGen.Proofs.Run.Tree
import SchemaGen.Zod.Converter

namespace SchemaGen.Zod

open Syntax

/-- The kinds of functions. What stands in the body of one is read when it is called. -/
def functionKinds : List String :=
  ["arrow_function", "function_expression", "function_declaration", "generator_function",
    "generator_function_declaration", "method_definition"]

/-- The kinds of variables: a name by itself, and a property that is abbreviated to the name of the variable
with its value. -/
def variableKinds : List String := ["identifier", "shorthand_property_identifier"]

/-- A variable of the given kind and name is read when the tree is evaluated, given the functions that are
called while the module loads. -/
inductive ReadOnLoad (called : Node → Prop) (kind name : String) : Node → Prop where
  | here {n : Node} : n.kind = kind → n.text = name → ReadOnLoad called kind name n
  | part {n c : Node} : n.kind ∉ variableKinds → c ∈ n.namedChildren →
    (n.kind ∈ functionKinds → "body" ∈ c.info.fields → called n) →
    ReadOnLoad called kind name c → ReadOnLoad called kind name n

namespace Constant

/-- The value of a constant mentions an identifier, inside of a function or outside. -/
def Mentions (c : Constant) (name : String) : Prop :=
  ∃ value ∈ c.value, value.mentions "identifier" name = true

/-- A constant gets its value from that of a variable. -/
def Reads (called : Node → Prop) (c : Constant) (name : String) : Prop :=
  ∃ kind ∈ variableKinds, ∃ value ∈ c.value, ReadOnLoad called kind name value

/-- A constant gets its value from that of a variable for which a property is named. -/
def ReadsAbbreviated (called : Node → Prop) (c : Constant) (name : String) : Prop :=
  ∃ value ∈ c.value, ReadOnLoad called "shorthand_property_identifier" name value

end Constant

/-- When constants get their values one after another, each value is made of those above and of `z` only. -/
def LoadsInOrder (called : Node → Prop) (cs : List Constant) : Prop :=
  ∀ before c after, cs = before ++ c :: after → ∀ name, c.Reads called name →
    name = "z" ∨ name ∈ before.map (·.name)

def declarators (n : Node) : List Node :=
  if n.kind = "export_statement" then
    (n.field? "declaration").elim [] fun d =>
      if d.kind = "lexical_declaration" then d.namedChildren.filter (·.kind = "variable_declarator")
      else []
  else []

def Constant.ofDeclarator? (n : Node) : Option Constant :=
  (n.field? "name").map fun name => ⟨name.text, n.field? "value"⟩

/-- All constants that a module exports, those that share a statement included. -/
def exportedConstants (root : Node) : List Constant :=
  root.namedChildren.flatMap fun n => (declarators n).filterMap Constant.ofDeclarator?

/-! ### Mentioned names -/

theorem mentions_of_readOnLoad {called : Node → Prop} {name : String} {n : Node}
    (h : ReadOnLoad called "identifier" name n) : n.mentions "identifier" name = true := by
  induction h with
  | here hkind htext =>
    rw [Node.mentions, if_pos hkind, decide_eq_true htext]
  | @part n c hkind hc _ _ ih =>
    have hother : n.kind ≠ "identifier" := fun h => hkind (h ▸ List.mem_cons_self)
    rw [Node.mentions, if_neg hother, List.any_eq_true]
    rw [← Node.namedInner_map_val, List.mem_map] at hc
    obtain ⟨d, hd, rfl⟩ := hc
    exact ⟨d, hd, ih⟩

theorem Constant.Reads.mentions_or {called : Node → Prop} {c : Constant} {name : String}
    (h : c.Reads called name) : c.Mentions name ∨ c.ReadsAbbreviated called name := by
  obtain ⟨kind, hkind, value, hvalue, hread⟩ := h
  simp only [variableKinds, List.mem_cons, List.not_mem_nil, or_false] at hkind
  rcases hkind with rfl | rfl
  · exact .inl ⟨value, hvalue, mentions_of_readOnLoad hread⟩
  · exact .inr ⟨value, hvalue, hread⟩

theorem Constant.ReadsAbbreviated.reads {called : Node → Prop} {c : Constant} {name : String}
    (h : c.ReadsAbbreviated called name) : c.Reads called name :=
  ⟨_, List.mem_cons_of_mem _ List.mem_cons_self, h⟩

theorem mem_identifiersIn (name : String) (n : Node) :
    name ∈ identifiersIn n ↔ n.mentions "identifier" name = true := by
  rw [identifiersIn, Node.mentions]
  split_ifs with hkind
  · rw [List.mem_singleton, decide_eq_true_eq, eq_comm]
  · rw [List.mem_flatMap, List.any_eq_true]
    exact exists_congr fun c => and_congr_right fun _ => mem_identifiersIn name c.1
termination_by sizeOf n
decreasing_by exact c.2

theorem mem_used {c : Constant} {name : String} : name ∈ c.used ↔ c.Mentions name := by
  rw [Constant.used, Constant.Mentions]
  cases c.value with
  | none => simp
  | some value => simp [mem_identifiersIn]

/-! ### The check -/

theorem useReport?_eq_none_iff {all declared : List String} {user name : String} :
    useReport? all declared user name = none ↔ name = "z" ∨ name ∈ declared := by
  unfold useReport?
  split_ifs with hfine hlate
  all_goals rw [Bool.or_eq_true, decide_eq_true_eq, decide_eq_true_eq] at hfine
  · exact iff_of_true rfl hfine
  · exact iff_of_false (by simp) hfine
  · exact iff_of_false (by simp) hfine

/-- No use is reported if each constant mentions `z`, itself and what is declared above it. -/
theorem checkUses_eq_nil_iff {all declared : List String} {cs : List Constant} :
    checkUses all declared cs = [] ↔ ∀ before c after, cs = before ++ c :: after → ∀ name, c.Mentions name →
      name = "z" ∨ name = c.name ∨ name ∈ before.map (·.name) ∨ name ∈ declared := by
  induction cs generalizing declared with
  | nil => simp [checkUses]
  | cons c cs ih =>
    have hfirst : c.used.filterMap (useReport? all (c.name :: declared) c.name) = [] ↔
        ∀ name, c.Mentions name → name = "z" ∨ name = c.name ∨ name ∈ declared := by
      rw [List.filterMap_eq_nil_iff]
      simp only [useReport?_eq_none_iff, List.mem_cons, mem_used]
    rw [checkUses, List.append_eq_nil_iff, hfirst, ih]
    constructor
    · rintro ⟨hc, hcs⟩ before d after hsplit name hname
      cases before with
      | nil =>
        obtain ⟨rfl, rfl⟩ := List.cons.inj hsplit
        simpa using hc name hname
      | cons e before =>
        obtain ⟨rfl, hrest⟩ := List.cons.inj hsplit
        -- What was declared above `d` is `c` and what stands between the two.
        have hfine := hcs before d after hrest name hname
        simp only [List.mem_cons, List.map_cons] at hfine ⊢
        tauto
    · intro h
      constructor
      · intro name hname
        simpa using h [] c cs rfl name hname
      · intro before d after hsplit name hname
        have hfine := h (c :: before) d after (by rw [hsplit, List.cons_append]) name hname
        simp only [List.mem_cons, List.map_cons] at hfine ⊢
        tauto

theorem check_eq_nil_iff {root : Node} : check root = [] ↔ root.firstError? = none ∧
    ∀ before c after, constants root = before ++ c :: after → ∀ name, c.Mentions name →
      name = "z" ∨ name = c.name ∨ name ∈ before.map (·.name) := by
  have hread : root.firstError?.toList.map (fun n => Report.mk none (.unreadable n.info.line)) = [] ↔
      root.firstError? = none := by
    rw [List.map_eq_nil_iff, Option.toList_eq_nil_iff]
  rw [check, List.append_eq_nil_iff, hread, checkUses_eq_nil_iff]
  simp only [List.not_mem_nil, or_false]

theorem exportedDeclarator?_eq (n : Node) :
    TypeScript.exportedDeclarator? n = (declarators n).head? := by
  unfold TypeScript.exportedDeclarator? declarators
  split_ifs
  · cases n.field? "declaration" with
    | none => rfl
    | some d =>
      rw [Option.bind_some, Option.elim_some]
      split_ifs
      · rw [List.head?_filter]
      · rfl
  · rfl

/-- The check looks at the first declarator of a statement. -/
theorem ofStatement?_eq (n : Node) :
    Constant.ofStatement? n = (declarators n).head?.bind Constant.ofDeclarator? := by
  rw [← exportedDeclarator?_eq]
  unfold Constant.ofStatement? Constant.ofDeclarator?
  cases TypeScript.exportedDeclarator? n with
  | none => rfl
  | some v => cases h : v.field? "name" <;> simp [h]

theorem exportedConstants_eq {root : Node}
    (h : ∀ n ∈ root.namedChildren, (declarators n).length ≤ 1) :
    exportedConstants root = constants root := by
  unfold exportedConstants constants
  revert h
  induction root.namedChildren with
  | nil => exact fun _ => rfl
  | cons n ns ih =>
    intro h
    rw [List.flatMap_cons, ih fun m hm => h m (List.mem_cons_of_mem _ hm)]
    have hone := h n List.mem_cons_self
    match hd : declarators n, hone with
    | [], _ => simp [ofStatement?_eq, hd]
    | [v], _ => cases hv : Constant.ofDeclarator? v <;> simp [ofStatement?_eq, hd, hv]

/-- A module passes the check exactly if it can be read and each constant mentions only identifiers that are
`z`, its own or those of constants above it. Whichever functions are called meanwhile, such a module loads in
order exactly if that also holds of the properties that are abbreviated to a variable and no constant gets its
value from itself. These are all exported constants if each stands in a statement of its own. -/
theorem check_loads (root : Node) :
    (check root = [] ↔ root.firstError? = none ∧
      ∀ before c after, constants root = before ++ c :: after → ∀ name, c.Mentions name →
        name = "z" ∨ name = c.name ∨ name ∈ before.map (·.name)) ∧
    (check root = [] → ∀ called, LoadsInOrder called (constants root) ↔
      ∀ before c after, constants root = before ++ c :: after → ∀ name,
        (c.ReadsAbbreviated called name ∨ c.Reads called name ∧ name = c.name) →
          name = "z" ∨ name ∈ before.map (·.name)) ∧
    ((∀ n ∈ root.namedChildren, (declarators n).length ≤ 1) →
      exportedConstants root = constants root) := by
  refine ⟨check_eq_nil_iff, fun hcheck called => ⟨?_, ?_⟩, exportedConstants_eq⟩
  · intro h before c after hsplit name hname
    refine h before c after hsplit name ?_
    rcases hname with hname | ⟨hname, _⟩
    · exact hname.reads
    · exact hname
  · intro h before c after hsplit name hname
    by_cases hself : name = c.name
    · exact h before c after hsplit name (.inr ⟨hname, hself⟩)
    · rcases hname.mentions_or with hmentions | habbreviated
      · have hfine := (check_eq_nil_iff.1 hcheck).2 before c after hsplit name hmentions
        exact hfine.imp_right fun h => h.resolve_left hself
      · exact h before c after hsplit name (.inl habbreviated)

/-! ### Modules that pass without loading in order -/

/-- A declarator of a constant on the first line of a source. -/
def declaratorAt (source : List Char) (start : Nat) (name : String) (value : Node) : Node :=
  Run.spanning source "variable_declarator" [] [
    Run.nodeAt 1 start "identifier" ["name"] name [],
    Run.tokenAt 1 (start + name.length + 1) [] "=", value]

/-- A call of a function of the library on the first line of a source, given the end of its arguments. -/
def callOfAt (source : List Char) (start : Nat) (function : String) (arguments : List Node) (stop : Nat) :
    Node :=
  Run.spanning source "call_expression" ["value"] [
    Run.spanning source "member_expression" ["function"] [
      Run.nodeAt 1 start "identifier" ["object"] "z" [],
      Run.tokenAt 1 (start + 1) [] ".",
      Run.nodeAt 1 (start + 2) "property_identifier" ["property"] function []],
    Run.spanning source "arguments" ["arguments"]
      (Run.tokenAt 1 (start + 2 + function.length) [] "(" :: arguments ++ [Run.tokenAt 1 stop [] ")"])]

/-- A module of one statement that exports constants, given its declarators and commas. -/
def moduleOfAt (source : List Char) (declarators : List Node) (stop : Nat) : Node :=
  Run.nodeAt 1 0 "program" [] (.ofList source) [
    Run.spanning source "export_statement" [] [
      Run.tokenAt 1 0 [] "export",
      Run.spanning source "lexical_declaration" ["declaration"]
        (Run.tokenAt 1 7 ["kind"] "const" :: declarators ++ [Run.tokenAt 1 stop [] ";"])]]

/-- A constant that gets its value from itself. -/
def selfSource : List Char := "export const ASchema = z.array(ASchema);".toList

def selfValue : Node :=
  callOfAt selfSource 23 "array" [Run.nodeAt 1 31 "identifier" [] "ASchema" []] 38

def selfModule : Node := moduleOfAt selfSource [declaratorAt selfSource 13 "ASchema" selfValue] 39

/-- A second constant in a statement, which gets its value from one that is not declared. -/
def pairSource : List Char := "export const ASchema = z.any(), BSchema = CSchema;".toList

def pairValue : Node := Run.nodeAt 1 42 "identifier" ["value"] "CSchema" []

def pairModule : Node :=
  moduleOfAt pairSource [
    declaratorAt pairSource 13 "ASchema" (callOfAt pairSource 23 "any" [] 29),
    Run.tokenAt 1 30 [] ",",
    declaratorAt pairSource 32 "BSchema" pairValue] 49

/-- A property that is abbreviated to a constant which is not declared. -/
def shorthandSource : List Char := "export const ASchema = z.object(\x7b BSchema \x7d);".toList

def shorthandObject : Node :=
  Run.spanning shorthandSource "object" [] [
    Run.tokenAt 1 32 [] "\x7b",
    Run.nodeAt 1 34 "shorthand_property_identifier" [] "BSchema" [],
    Run.tokenAt 1 42 [] "\x7d"]

def shorthandValue : Node := callOfAt shorthandSource 23 "object" [shorthandObject] 43

def shorthandModule : Node :=
  moduleOfAt shorthandSource [declaratorAt shorthandSource 13 "ASchema" shorthandValue] 44

/-- What stands in a part that is no body is read with the whole. -/
theorem ReadOnLoad.inside {called : Node → Prop} {kind name : String} {n c : Node}
    (hkind : n.kind ∉ variableKinds) (hfunction : n.kind ∉ functionKinds) (hc : c ∈ n.namedChildren)
    (h : ReadOnLoad called kind name c) : ReadOnLoad called kind name n :=
  .part hkind hc (fun hf => absurd hf hfunction) h

theorem readOnLoad_callOfAt {called : Node → Prop} {kind name : String} {source : List Char}
    {start stop : Nat} {function : String} {argument : Node} (hnamed : argument.isNamed = true)
    (h : ReadOnLoad called kind name argument) :
    ReadOnLoad called kind name (callOfAt source start function [argument] stop) := by
  have harguments : ReadOnLoad called kind name (Run.spanning source "arguments" ["arguments"]
      [Run.tokenAt 1 (start + 2 + function.length) [] "(", argument, Run.tokenAt 1 stop [] ")"]) := by
    have hmem : argument ∈ (Run.spanning source "arguments" ["arguments"] [Run.tokenAt 1
        (start + 2 + function.length) [] "(", argument, Run.tokenAt 1 stop [] ")"]).namedChildren := by
      simp [Node.namedChildren, Node.children, Run.spanning, hnamed]
    exact .inside (show "arguments" ∉ _ by decide) (show "arguments" ∉ _ by decide) hmem h
  exact .inside (show "call_expression" ∉ _ by decide) (show "call_expression" ∉ _ by decide)
    (List.mem_cons_of_mem _ (List.mem_singleton_self _)) harguments

/-- A module can pass the check and, without calling a function, read a constant that has no value: one for
which a property is named, or one that gets its value from itself. Of constants that share a statement all but
the first are left out. -/
theorem check_passes_unordered :
    (check shorthandModule = [] ∧
      ¬LoadsInOrder (fun _ => False) (exportedConstants shorthandModule)) ∧
    (check selfModule = [] ∧ ¬LoadsInOrder (fun _ => False) (exportedConstants selfModule)) ∧
    (check pairModule = [] ∧ ¬LoadsInOrder (fun _ => False) (exportedConstants pairModule)) := by
  have hshorthand : check shorthandModule = [] := by decide +kernel
  have hself : check selfModule = [] := by decide +kernel
  have hpair : check pairModule = [] := by decide +kernel
  refine ⟨⟨hshorthand, ?_⟩, ⟨hself, ?_⟩, ⟨hpair, fun h => ?_⟩⟩
  · rw [(check_loads shorthandModule).2.2 (by decide), (check_loads shorthandModule).2.1 hshorthand]
    intro h
    have hread : ReadOnLoad (fun _ => False) "shorthand_property_identifier" "BSchema" shorthandObject :=
      .inside (by decide) (by decide) (List.mem_singleton_self _) (.here rfl rfl)
    have hplace := h [] ⟨"ASchema", some shorthandValue⟩ [] rfl "BSchema"
      (.inl ⟨shorthandValue, rfl, readOnLoad_callOfAt rfl hread⟩)
    simp at hplace
  · rw [(check_loads selfModule).2.2 (by decide), (check_loads selfModule).2.1 hself]
    intro h
    have hread : ReadOnLoad (fun _ => False) "identifier" "ASchema" selfValue :=
      readOnLoad_callOfAt rfl (.here rfl rfl)
    have hplace := h [] ⟨"ASchema", some selfValue⟩ [] rfl "ASchema"
      (.inr ⟨⟨_, List.mem_cons_self, selfValue, rfl, hread⟩, rfl⟩)
    simp at hplace
  · have hplace := h [⟨"ASchema", some (callOfAt pairSource 23 "any" [] 29)⟩] ⟨"BSchema", some pairValue⟩ []
      rfl "CSchema" ⟨_, List.mem_cons_self, pairValue, rfl, .here rfl rfl⟩
    simp at hplace

end SchemaGen.Zod
