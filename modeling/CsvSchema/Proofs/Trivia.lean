import Mathlib.Logic.Relation
import CsvSchema.Proofs.Slots.Nodes

/-!
# Comments and wrappers

A grammar may leave more in a parse tree than a schema is made of: comments, and nodes that only
wrap another one.  Putting them in, anywhere and as many as one likes, changes nothing about the
schema or about the diagnostic, `Schema.ofTree_eq_of_trivia`, as long as the tree stays within the
depth that is allowed.
-/

namespace CsvSchema

mutual

/-- The number of nodes on the longest path through a child. -/
def Child.depth : Child → Nat
  | .token _ => 0
  | .node _ children _ => childrenDepth children + 1

/-- The number of nodes on the longest path through some children. -/
def childrenDepth : List Child → Nat
  | [] => 0
  | child :: rest => max child.depth (childrenDepth rest)

end

/-- The number of nodes on the longest path through a tree. -/
def Node.depth (tree : Node) : Nat := tree.toChild.depth

/-- A comment without a place that holds nothing but tokens. -/
def commentOf (texts : List String) : Child := .node "comment" (texts.map .token) none

/-- A tag that no kind of node has and that is not named like the tag of a directive. -/
structure IsWrapperTag (tag : String) : Prop where
  unknown : NodeKind.ofTag? tag = none
  noDirective : looksLikeDirective tag = false

/-- A child that reduces to a comment. -/
def Child.StandsForComment (child : Child) : Prop :=
  ∃ slot next, reduceChild maxDepth slot child = .ok (.comment, next)

/-- One comment is put among some children or below one of them, or a child is wrapped that does
not stand for a comment. -/
inductive AddsTrivia : List Child → List Child → Prop
  | comment (texts : List String) (rest : List Child) : AddsTrivia rest (commentOf texts :: rest)
  | wrapper {tag : String} {child : Child} (rest : List Child) (htag : IsWrapperTag tag)
      (hchild : ¬child.StandsForComment) :
      AddsTrivia (child :: rest) (.node tag [child] none :: rest)
  | inside (tag : String) (span : Option Span) {children children' : List Child}
      (rest : List Child) (h : AddsTrivia children children') :
      AddsTrivia (.node tag children span :: rest) (.node tag children' span :: rest)
  | later (child : Child) {rest rest' : List Child} (h : AddsTrivia rest rest') :
      AddsTrivia (child :: rest) (child :: rest')

theorem AddsTrivia.childrenDepth_le {children children' : List Child}
    (h : AddsTrivia children children') : childrenDepth children ≤ childrenDepth children' := by
  induction h with
  | comment texts rest => exact Nat.le_max_right _ _
  | wrapper rest htag hchild =>
      simp only [childrenDepth, Child.depth]
      omega
  | inside tag span rest h ih =>
      simp only [childrenDepth, Child.depth]
      omega
  | later child h ih =>
      simp only [childrenDepth]
      omega

mutual

/-- A child is reduced in the same way wherever there is room for it. -/
theorem reduceChild_of_room {room room' : Nat} {child : Child} (h : child.depth ≤ room)
    (h' : child.depth ≤ room') (slot : Nat) :
    reduceChild room slot child = reduceChild room' slot child := by
  cases child with
  | token text => simp only [reduceChild]
  | node tag children span =>
      simp only [Child.depth] at h h'
      obtain ⟨below, rfl⟩ : ∃ below, room = below + 1 := ⟨room - 1, by omega⟩
      obtain ⟨below', rfl⟩ : ∃ below', room' = below' + 1 := ⟨room' - 1, by omega⟩
      simp only [reduceChild]
      rw [reduceChildren_of_room (Nat.le_of_succ_le_succ h) (Nat.le_of_succ_le_succ h') slot]

theorem reduceChildren_of_room {room room' : Nat} {children : List Child}
    (h : childrenDepth children ≤ room) (h' : childrenDepth children ≤ room') (slot : Nat) :
    reduceChildren room slot children = reduceChildren room' slot children := by
  cases children with
  | nil => simp only [reduceChildren]
  | cons child rest =>
      simp only [childrenDepth, Nat.max_le] at h h'
      simp only [reduceChildren]
      rw [reduceChild_of_room h.1 h'.1 slot]
      congr 1
      funext reduced
      rw [reduceChildren_of_room h.2 h'.2 reduced.2]

end

section Reductions

open Fallible

variable {room slot : Nat}

theorem Diagnostic.exists_node_atNode (diagnostic : Diagnostic) (tag : String)
    (span : Option Span) : ∃ name, (diagnostic.atNode tag span).node = some name := by
  cases hnode : diagnostic.node with
  | none => exact ⟨tag, by simp [atNode, hnode]⟩
  | some name => exact ⟨name, by simp [atNode, hnode]⟩

/-- A node without a place does not show in a diagnostic that names another one. -/
theorem Diagnostic.atNode_none {diagnostic : Diagnostic} {name : String}
    (h : diagnostic.node = some name) (tag : String) : diagnostic.atNode tag none = diagnostic := by
  obtain ⟨code, message, node, span, suggestion⟩ := diagnostic
  subst h
  simp [atNode]

theorem exists_node_of_raiseAt {α : Type} {tag : String} {span : Option Span}
    {result : Except Fault α} {diagnostic : Diagnostic}
    (h : raiseAt tag span result = .error diagnostic) : ∃ name, diagnostic.node = some name := by
  cases result with
  | error fault =>
      cases h
      exact Diagnostic.exists_node_atNode _ _ _
  | ok a => cases h

theorem exists_node_of_passAt {α : Type} {tag : String} {span : Option Span}
    {result : Except Diagnostic α} {diagnostic : Diagnostic}
    (h : passAt tag span result = .error diagnostic) : ∃ name, diagnostic.node = some name := by
  cases result with
  | error inner =>
      cases h
      exact Diagnostic.exists_node_atNode _ _ _
  | ok a => cases h

/-- The diagnostic of a child names a node. -/
theorem exists_node_of_reduceChild {child : Child} {diagnostic : Diagnostic}
    (h : reduceChild room slot child = .error diagnostic) :
    ∃ name, diagnostic.node = some name := by
  cases child with
  | token text => cases h
  | node tag children span =>
      cases room with
      | zero =>
          simp only [reduceChild] at h
          exact exists_node_of_raiseAt h
      | succ below =>
          simp only [reduceChild, bind_eq_error] at h
          rcases h with hchildren | ⟨reduced, -, htag⟩
          · exact exists_node_of_passAt hchildren
          · exact exists_node_of_raiseAt htag

theorem reduceChildren_tokens (texts : List String) :
    reduceChildren room slot (texts.map .token) = .ok (texts.map .token, slot) := by
  induction texts with
  | nil => rfl
  | cons text rest ih =>
      rw [List.map_cons, List.map_cons, reduceChildren_cons_eq_ok]
      exact ⟨.token text, slot, rest.map .token, rfl, ih, rfl⟩

/-- A comment is left out and takes no slot. -/
theorem reduceChildren_commentOf (hroom : 1 ≤ room) (texts : List String) (rest : List Child) :
    reduceChildren room slot (commentOf texts :: rest) = reduceChildren room slot rest := by
  obtain ⟨below, rfl⟩ : ∃ below, room = below + 1 := ⟨room - 1, by omega⟩
  have hcomment : reduceChild (below + 1) slot (commentOf texts) = .ok (.comment, slot) :=
    reduceChild_node_eq_ok.2 ⟨below, texts.map .token, slot, rfl, reduceChildren_tokens texts, rfl⟩
  rw [reduceChildren, hcomment]
  cases hrest : reduceChildren (below + 1) slot rest with
  | error diagnostic => simp only [bind, Except.bind, hrest]
  | ok reduced => simp only [bind, Except.bind, hrest]; rfl

theorem reduceTag_wrapper {tag : String} (htag : IsWrapperTag tag) (part : Part) :
    reduceTag tag slot [part] = .ok (part, slot) := by
  simp only [reduceTag, htag.unknown, htag.noDirective, Bool.false_eq_true, if_false]

/-- A wrapper reduces to what it wraps. -/
theorem reduceChild_wrapper {tag : String} {child : Child} (htag : IsWrapperTag tag)
    (hchild : ¬child.StandsForComment) (hdepth : child.depth + 1 ≤ room) (hroom : room ≤ maxDepth) :
    reduceChild room slot (.node tag [child] none) = reduceChild room slot child := by
  obtain ⟨below, rfl⟩ : ∃ below, room = below + 1 := ⟨room - 1, by omega⟩
  have hinside : reduceChild below slot child = reduceChild (below + 1) slot child :=
    reduceChild_of_room (by omega) (by omega) slot
  rw [reduceChild, reduceChildren, hinside]
  cases hreduced : reduceChild (below + 1) slot child with
  | error diagnostic =>
      obtain ⟨name, hname⟩ := exists_node_of_reduceChild hreduced
      simp only [bind, Except.bind, passAt, Diagnostic.atNode_none hname]
  | ok reduced =>
      obtain ⟨part, next⟩ := reduced
      have hkept : part.isComment = false := by
        have hmost : reduceChild maxDepth slot child = .ok (part, next) :=
          (reduceChild_of_room (by omega) (by omega) slot).trans hreduced
        cases part with
        | comment => exact absurd ⟨slot, next, hmost⟩ hchild
        | _ => rfl
      simp only [bind, Except.bind, reduceChildren, pure, Except.pure, hkept, Bool.false_eq_true,
        if_false, passAt, reduceTag_wrapper htag, raiseAt]

/-- One more comment or wrapper does not change what children reduce to. -/
theorem reduceChildren_of_addsTrivia {children children' : List Child}
    (h : AddsTrivia children children') (hdepth : childrenDepth children' ≤ room)
    (hroom : room ≤ maxDepth) :
    reduceChildren room slot children' = reduceChildren room slot children := by
  induction h generalizing room slot with
  | comment texts rest =>
      simp only [childrenDepth, commentOf, Child.depth] at hdepth
      exact reduceChildren_commentOf (by omega) texts rest
  | wrapper rest htag hchild =>
      simp only [childrenDepth, Child.depth] at hdepth
      rw [reduceChildren, reduceChild_wrapper htag hchild (by omega) hroom, reduceChildren]
  | inside tag span rest h ih =>
      simp only [childrenDepth, Child.depth] at hdepth
      obtain ⟨below, rfl⟩ : ∃ below, room = below + 1 := ⟨room - 1, by omega⟩
      simp only [reduceChildren, reduceChild]
      rw [ih (by omega) (by omega)]
  | later child h ih =>
      simp only [childrenDepth] at hdepth
      simp only [reduceChildren]
      congr 1
      funext reduced
      rw [ih (by omega) hroom]

end Reductions

namespace Schema

/-- The tree that comes out when comments and wrappers are added, any number of them and one after
the other, builds the same schema with the same slots or is refused with the same diagnostic, unless
it is too deep. -/
theorem ofTree_eq_of_trivia {tree : Node} {children : List Child}
    (htrivia : Relation.ReflTransGen AddsTrivia tree.children children)
    (hdepth : Node.depth { tree with children := children } ≤ maxDepth) :
    ofTree { tree with children := children } = ofTree tree := by
  induction htrivia with
  | refl => rfl
  | @tail before after _ hlast ih =>
      simp only [Node.depth, Node.toChild, Child.depth] at hdepth ih
      have hbefore := hlast.childrenDepth_le
      rw [← ih (by omega)]
      -- The root is reduced from its children, for which there is room for one node less.
      obtain ⟨below, hbelow⟩ : ∃ below, maxDepth = below + 1 := ⟨maxDepth - 1, rfl⟩
      have hchildren : reduceChildren below 0 after = reduceChildren below 0 before :=
        reduceChildren_of_addsTrivia hlast (by omega) (by omega)
      simp only [ofTree, Node.toChild, hbelow, reduceChild, hchildren]

/-- The tree of a schema with one column that must not repeat a value, with the name of the column
and its rule as they are. -/
def treeOfUniqueColumn (name rule : Child) : Node :=
  ⟨"schema", [.node "prolog" [.token "version 1.0"] none,
    .node "body" [.node "column_definition" [name, rule] none] none], none⟩

/-- The rule of such a column, with something inside its check. -/
def uniqueRule (inside : List Child) : Child :=
  .node "column_rule" [.node "unique_expr" inside none] none

/-- A comment inside the check, and wrappers around the name of the column and around its rule. -/
theorem ofTree_eq_of_comment_and_wrappers :
    let plain := treeOfUniqueColumn (.token "a:") (uniqueRule [])
    let changed := treeOfUniqueColumn (.node "name" [.token "a:"] none)
      (.node "group" [uniqueRule [commentOf ["// once"]]] none)
    Relation.ReflTransGen AddsTrivia plain.children changed.children ∧ changed.depth ≤ maxDepth ∧
      ofTree changed = ofTree plain ∧ (ofTree plain).map Schema.slots = .ok 1 := by
  intro plain changed
  have hinside : ∀ {children children' : List Child}, AddsTrivia children children' →
      AddsTrivia [.node "prolog" [.token "version 1.0"] none,
          .node "body" [.node "column_definition" children none] none]
        [.node "prolog" [.token "version 1.0"] none,
          .node "body" [.node "column_definition" children' none] none] :=
    fun h => .later _ (.inside _ _ [] (.inside _ _ [] h))
  have hname : ¬(Child.token "a:").StandsForComment := by
    rintro ⟨slot, next, h⟩
    cases h
  have hrule : ¬(uniqueRule [commentOf ["// once"]]).StandsForComment := by
    rintro ⟨slot, next, h⟩
    have hreduced : reduceChild maxDepth slot (uniqueRule [commentOf ["// once"]]) =
        .ok (.rule ⟨[.atom (.unique [] slot)], .initial⟩, slot + 1) := by
      with_unfolding_all rfl
    rw [hreduced] at h
    cases h
  have htrivia : Relation.ReflTransGen AddsTrivia plain.children changed.children :=
    .tail (.tail (.tail .refl
      (hinside (.later _ (.inside _ _ [] (.inside _ _ [] (.comment ["// once"] []))))))
      (hinside (.wrapper _ ⟨by decide, by decide⟩ hname)))
      (hinside (.later _ (.wrapper [] ⟨by decide, by decide⟩ hrule)))
  have hdepth : changed.depth ≤ maxDepth := by decide
  exact ⟨htrivia, hdepth, ofTree_eq_of_trivia htrivia hdepth, by with_unfolding_all rfl⟩

end Schema

end CsvSchema
