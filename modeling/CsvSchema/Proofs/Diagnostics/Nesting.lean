import CsvSchema.Proofs.Diagnostics.Places

/-!
# The limit on nesting

A tree with a path of more nodes than are allowed does not build, and only such a tree is refused
for its nesting, `Schema.ofTree_limits_nesting`.  What was reduced before does not count, because a
reduction comes back to the depth that it started from, whether or not it failed,
`Counting.does_reduceChild`.
-/

namespace CsvSchema

open Fallible

theorem Diagnostic.atNode_atNode (diagnostic : Diagnostic) (tag : String) (span : Option Span) :
    (diagnostic.atNode tag span).atNode tag span = diagnostic.atNode tag span := by
  cases hnode : diagnostic.node <;> cases hspan : diagnostic.span <;> cases span <;>
    simp [atNode, hnode, hspan]

/-- A fault of the tag passes its own node only once. -/
theorem passAt_bind_raiseAt {α β : Type} (tag : String) (span : Option Span)
    (below : Except Diagnostic α) (make : α → Except Fault β) :
    passAt tag span (below >>= fun a => raiseAt tag span (make a)) =
      passAt tag span below >>= fun a => raiseAt tag span (make a) := by
  cases below with
  | error diagnostic => rfl
  | ok a =>
      change passAt tag span (raiseAt tag span (make a)) = raiseAt tag span (make a)
      cases make a with
      | error fault => exact congrArg Except.error (Diagnostic.atNode_atNode _ tag span)
      | ok b => rfl

namespace Counting

variable {α β : Type} {action : Counting α} {slot depth : Nat}
  {plain : Except Diagnostic (α × Nat)}

/-- From some counters an action does what a reduction without counters does, and it comes back to
the depth that it started from, whether or not it fails. -/
inductive Does (action : Counting α) (slot depth : Nat) : Except Diagnostic (α × Nat) → Prop
  | ok {a : α} {next : Nat} (h : action ⟨slot, depth⟩ = (.ok a, ⟨next, depth⟩)) :
      Does action slot depth (.ok (a, next))
  | error {diagnostic : Diagnostic} {slots : Nat}
      (h : action ⟨slot, depth⟩ = (.error diagnostic, ⟨slots, depth⟩)) :
      Does action slot depth (.error diagnostic)

theorem bind_apply (action : Counting α) (next : α → Counting β) (counters : Counters) :
    (action >>= next) counters =
      match action counters with
      | (.ok a, counters) => next a counters
      | (.error diagnostic, counters) => (.error diagnostic, counters) := by
  simp only [bind, ExceptT.bind, ExceptT.mk, ExceptT.bindCont, StateT.bind]
  rcases action counters with ⟨_ | _, _⟩ <;> rfl

namespace Does

theorem pure (a : α) : Does (Pure.pure a) slot depth (.ok (a, slot)) := .ok rfl

theorem depth_eq (h : Does action slot depth plain) : (action ⟨slot, depth⟩).2.depth = depth := by
  cases h with
  | ok h => rw [h]
  | error h => rw [h]

theorem congr {action' : Counting α} {slot' : Nat} (h : Does action slot depth plain)
    (heq : action' ⟨slot', depth⟩ = action ⟨slot, depth⟩) : Does action' slot' depth plain := by
  cases h with
  | ok h => exact .ok (heq.trans h)
  | error h => exact .error (heq.trans h)

/-- What comes after an action that fails does not move the counters. -/
theorem bind (h : Does action slot depth plain) {next : α → Counting β}
    {plainNext : α × Nat → Except Diagnostic (β × Nat)}
    (hnext : ∀ a middle, Does (next a) middle depth (plainNext (a, middle))) :
    Does (action >>= next) slot depth (plain >>= plainNext) := by
  cases h with
  | @ok a middle h =>
      have hafter : (action >>= next) ⟨slot, depth⟩ = next a ⟨middle, depth⟩ := by
        rw [bind_apply, h]
      exact (hnext a middle).congr hafter
  | error h => exact .error (by rw [bind_apply, h])

/-- A node is left for the depth at which it was entered. -/
theorem inside (h : Does action slot (depth + 1) plain) :
    Does (inside action) slot depth plain := by
  cases h with
  | ok h => exact .ok (by rw [Counting.inside, h]; rfl)
  | error h => exact .error (by rw [Counting.inside, h]; rfl)

theorem passing (h : Does action slot depth plain) (tag : String) (span : Option Span) :
    Does (passing tag span action) slot depth (passAt tag span plain) := by
  cases h with
  | ok h => exact .ok (by rw [Counting.passing, h]; rfl)
  | error h => exact .error (by rw [Counting.passing, h]; rfl)

end Does

theorem does_dispatch (tag : String) (span : Option Span) (parts : List Part) (slot depth : Nat) :
    Does (dispatch tag span parts) slot depth (raiseAt tag span (reduceTag tag slot parts)) := by
  cases htag : reduceTag tag slot parts with
  | ok reduced => exact .ok (by simp only [dispatch, htag])
  | error fault => exact .error (by simp only [dispatch, htag]; rfl)

/-- A node is entered below the limit, and refused from there on. -/
theorem reduceChild_node (tag : String) (children : List Child) (span : Option Span)
    (counters : Counters) :
    reduceChild (.node tag children span) counters =
      if maxDepth ≤ counters.depth then (raiseAt tag span (.error .tooDeep), counters)
      else passing tag span (inside (reduceChildren children >>= dispatch tag span)) counters := by
  rw [reduceChild, bind_apply]
  change (if maxDepth ≤ counters.depth then _ else _ : Counting Part) counters = _
  split
  · rfl
  · rfl

mutual

/-- The counters lead to the same reduction as the room that is left, and the depth afterwards is
the one before. -/
theorem does_reduceChild (child : Child) (slot depth : Nat) :
    Does (reduceChild child) slot depth
      (CsvSchema.reduceChild (maxDepth - depth) slot child) := by
  cases child with
  | token text =>
      simp only [reduceChild, CsvSchema.reduceChild]
      exact .pure _
  | node tag children span =>
      have hnode := reduceChild_node tag children span ⟨slot, depth⟩
      by_cases hlimit : maxDepth ≤ depth
      · rw [if_pos hlimit] at hnode
        rw [Nat.sub_eq_zero_of_le hlimit, CsvSchema.reduceChild]
        exact .error hnode
      · rw [if_neg hlimit] at hnode
        have hroom : maxDepth - depth = maxDepth - (depth + 1) + 1 := by omega
        have hinside : Does (reduceChildren children >>= dispatch tag span) slot (depth + 1)
            (CsvSchema.reduceChildren (maxDepth - (depth + 1)) slot children >>= fun reduced =>
              raiseAt tag span (reduceTag tag reduced.2 reduced.1)) :=
          (does_reduceChildren children slot (depth + 1)).bind
            fun parts next => does_dispatch tag span parts next (depth + 1)
        have hpassed := (hinside.inside.passing tag span).congr hnode
        rw [passAt_bind_raiseAt] at hpassed
        rw [hroom, CsvSchema.reduceChild]
        exact hpassed

theorem does_reduceChildren (children : List Child) (slot depth : Nat) :
    Does (reduceChildren children) slot depth
      (CsvSchema.reduceChildren (maxDepth - depth) slot children) := by
  cases children with
  | nil =>
      simp only [reduceChildren, CsvSchema.reduceChildren]
      exact .pure _
  | cons child rest =>
      simp only [reduceChildren, CsvSchema.reduceChildren]
      exact (does_reduceChild child slot depth).bind fun part middle =>
        (does_reduceChildren rest middle depth).bind fun parts next => .pure _

end

/-- Counting changes nothing about what a tree builds. -/
theorem ofTree_eq (tree : Node) : (ofTree tree .start).1 = Schema.ofTree tree := by
  have hroot := does_reduceChild tree.toChild 0 0
  rw [Nat.sub_zero] at hroot
  unfold ofTree Schema.ofTree
  rw [bind_apply, Counters.start]
  generalize CsvSchema.reduceChild maxDepth 0 tree.toChild = plain at hroot ⊢
  cases hroot with
  | ok h =>
      rw [h]
      rename_i part next
      cases part <;> rfl
  | error h => rw [h]; rfl

end Counting

/-- No tag says that a node is too deep. -/
theorem reduceTag_ne_tooDeep (tag : String) (slot : Nat) (parts : List Part) :
    reduceTag tag slot parts ≠ .error .tooDeep := by
  intro h
  rcases isOwn_or_repeatedColumn_of_reduceTag h with hown | ⟨-, name, hname⟩
  · cases hown
  · cases hname

section Depth

variable {site : Site}

mutual

theorem length_path_le_depth {above : List Node} {child : Child} (h : site ∈ child.sites above) :
    site.path.length ≤ above.length + child.depth := by
  cases child with
  | token text => cases h
  | node tag children span =>
      rw [Child.depth]
      rcases mem_sites_node.1 h with rfl | hbelow
      · simp only [Site.path, List.length_cons]
        omega
      · have hlength := length_path_le_childrenDepth hbelow
        rw [List.length_cons] at hlength
        omega

theorem length_path_le_childrenDepth {above : List Node} {children : List Child}
    (h : site ∈ childrenSites above children) :
    site.path.length ≤ above.length + childrenDepth children := by
  cases children with
  | nil => cases h
  | cons child rest =>
      rw [childrenDepth]
      rcases List.mem_append.1 h with hfirst | hlater
      · have hlength := length_path_le_depth hfirst
        omega
      · have hlength := length_path_le_childrenDepth hlater
        omega

end

mutual

/-- Some site is as far down as a child is deep. -/
theorem exists_length_path_eq_depth (above : List Node) {child : Child} (h : 0 < child.depth) :
    ∃ site ∈ child.sites above, site.path.length = above.length + child.depth := by
  cases child with
  | token text => cases h
  | node tag children span =>
      rw [Child.depth]
      by_cases hchildren : 0 < childrenDepth children
      · obtain ⟨site, hsite, hlength⟩ :=
          exists_length_path_eq_childrenDepth (⟨tag, children, span⟩ :: above) hchildren
        rw [List.length_cons] at hlength
        exact ⟨site, mem_sites_node.2 (.inr hsite), by omega⟩
      · refine ⟨⟨⟨tag, children, span⟩, above⟩, mem_sites_node.2 (.inl rfl), ?_⟩
        simp only [Site.path, List.length_cons]
        omega

theorem exists_length_path_eq_childrenDepth (above : List Node) {children : List Child}
    (h : 0 < childrenDepth children) :
    ∃ site ∈ childrenSites above children,
      site.path.length = above.length + childrenDepth children := by
  cases children with
  | nil => cases h
  | cons child rest =>
      rw [childrenDepth] at h ⊢
      by_cases hfirst : childrenDepth rest ≤ child.depth
      · have hchild : 0 < child.depth := by omega
        obtain ⟨site, hsite, hlength⟩ := exists_length_path_eq_depth above hchild
        exact ⟨site, List.mem_append_left _ hsite, by omega⟩
      · have hrest : 0 < childrenDepth rest := by omega
        obtain ⟨site, hsite, hlength⟩ := exists_length_path_eq_childrenDepth above hrest
        exact ⟨site, List.mem_append_right _ hsite, by omega⟩

end

/-- Some path from the root has more nodes than are allowed. -/
def Node.IsTooDeep (tree : Node) : Prop :=
  ∃ site : Site, site.IsIn tree ∧ maxDepth < site.path.length

theorem Node.isTooDeep_iff {tree : Node} : tree.IsTooDeep ↔ maxDepth < tree.depth := by
  constructor
  · rintro ⟨site, hsite, hlimit⟩
    have hlength := length_path_le_depth (mem_sites_iff.2 hsite)
    rw [List.length_nil, Nat.zero_add] at hlength
    exact Nat.lt_of_lt_of_le hlimit hlength
  · intro hlimit
    have hpositive : 0 < tree.toChild.depth := Nat.zero_lt_of_lt hlimit
    obtain ⟨site, hsite, hlength⟩ := exists_length_path_eq_depth [] hpositive
    rw [List.length_nil, Nat.zero_add] at hlength
    exact ⟨site, mem_sites_iff.1 hsite, hlength ▸ hlimit⟩

end Depth

section Limit

variable {site other : Site} {fault : Fault}

theorem Site.raises_tooDeep_iff : site.Raises .tooDeep ↔ maxDepth < site.path.length := by
  constructor
  · intro h
    cases h with
    | tooDeep hdepth => exact Nat.lt_succ_of_le hdepth
    | tag _ _ htag => exact absurd htag (reduceTag_ne_tooDeep _ _ _)
  · exact fun hlimit => .tooDeep (Nat.le_of_lt_succ hlimit)

/-- A node beyond the limit is not looked into, so nothing else is said of it. -/
theorem Site.Raises.eq_tooDeep (h : site.Raises fault) (hlimit : maxDepth < site.path.length) :
    fault = .tooDeep := by
  cases h with
  | tooDeep => rfl
  | tag hdepth => exact absurd hdepth (Nat.not_lt_of_le (Nat.le_of_lt_succ hlimit))
  | root habove => simp [Site.path, habove, maxDepth] at hlimit

/-- There is only one first site that raises a fault. -/
theorem RaisesFirst.site_eq {sites : List Site} {fault' : Fault} (h : RaisesFirst sites site fault)
    (h' : RaisesFirst sites other fault') : site = other := by
  obtain ⟨⟨before, after, hsites, hbefore⟩, hraises⟩ := h
  obtain ⟨⟨before', after', hsites', hbefore'⟩, hraises'⟩ := h'
  rw [hsites] at hsites'
  rcases List.append_eq_append_iff.1 hsites' with ⟨middle, hlong, hrest⟩ | ⟨middle, hlong, hrest⟩
  · cases middle with
    | nil => exact (List.cons.inj hrest).1
    | cons first middle =>
        obtain ⟨rfl, -⟩ := List.cons.inj hrest
        exact absurd hraises (hbefore' site (by simp [hlong]) fault)
  · cases middle with
    | nil => exact (List.cons.inj hrest).1.symm
    | cons first middle =>
        obtain ⟨rfl, -⟩ := List.cons.inj hrest
        exact absurd hraises' (hbefore other (by simp [hlong]) fault')

/-- What is said of a tree that is nested too deeply is said of nothing else. -/
theorem Fault.eq_tooDeep {fault : Fault} (hcode : fault.code = 103)
    (hmessage : fault.message = "tree nesting exceeds 256 levels") : fault = .tooDeep := by
  cases fault with
  | tooDeep => rfl
  | rootIsNoSchema found =>
      change "tree root reduced to " ++ found.text ++ ", expected a schema" = _ at hmessage
      have ho : 'o' ∈ ("tree root reduced to " ++ found.text ++ ", expected a schema").toList := by
        simp [String.toList_append]
      rw [hmessage] at ho
      simp at ho
  | emptyColumnName =>
      change "column name is empty" = _ at hmessage
      simp at hmessage
  | unnamedReference =>
      change "column reference has no name" = _ at hmessage
      simp at hmessage
  | _ => simp [code] at hcode

theorem Fault.message_tooDeep : Fault.tooDeep.message = "tree nesting exceeds 256 levels" := by
  decide +kernel

end Limit

namespace Schema

/-- A tree with a path of more nodes than are allowed does not build, and only such a tree is
refused for its nesting: this is so if and only if the first node that is refused lies beyond the
limit.  A reduction that counts the nodes which it is inside of comes to the same end, and after
every child, reduced or refused, its count is what it was before. -/
theorem ofTree_limits_nesting (tree : Node) :
    (tree.IsTooDeep → ∃ diagnostic, ofTree tree = .error diagnostic) ∧
    (∀ diagnostic, ofTree tree = .error diagnostic →
      diagnostic.code = 103 → diagnostic.message = "tree nesting exceeds 256 levels" →
        tree.IsTooDeep) ∧
    (∀ diagnostic, ofTree tree = .error diagnostic →
      (diagnostic.code = 103 ∧ diagnostic.message = "tree nesting exceeds 256 levels" ↔
        ∃ site fault, RaisesFirst tree.sites site fault ∧ maxDepth < site.path.length)) ∧
    (Counting.ofTree tree .start).1 = ofTree tree ∧
    ∀ (child : Child) (counters : Counters),
      (Counting.reduceChild child counters).2.depth = counters.depth := by
  have hfirst : ∀ diagnostic, ofTree tree = .error diagnostic →
      (diagnostic.code = 103 ∧ diagnostic.message = "tree nesting exceeds 256 levels" ↔
        ∃ site fault, RaisesFirst tree.sites site fault ∧ maxDepth < site.path.length) := by
    intro diagnostic herror
    obtain ⟨site, fault, hraises, rfl⟩ := exists_raisesFirst_of_ofTree herror
    constructor
    · rintro ⟨hcode, hmessage⟩
      obtain rfl := Fault.eq_tooDeep hcode hmessage
      exact ⟨site, .tooDeep, hraises, Site.raises_tooDeep_iff.1 hraises.raises⟩
    · rintro ⟨other, fault', hraises', hlimit⟩
      obtain rfl := hraises'.site_eq hraises
      obtain rfl := hraises.raises.eq_tooDeep hlimit
      exact ⟨rfl, Fault.message_tooDeep⟩
  refine ⟨?_, ?_, hfirst, Counting.ofTree_eq tree, fun child counters => ?_⟩
  · rintro ⟨site, hsite, hlimit⟩
    cases hbuilt : ofTree tree with
    | error diagnostic => exact ⟨diagnostic, rfl⟩
    | ok schema =>
        have hnone := builds_iff_not_raises.1 ⟨schema, hbuilt⟩ site (mem_sites_iff.2 hsite) .tooDeep
        exact absurd (Site.raises_tooDeep_iff.2 hlimit) hnone
  · intro diagnostic herror hcode hmessage
    obtain ⟨site, fault, ⟨⟨before, after, hsites, -⟩, -⟩, hlimit⟩ :=
      (hfirst diagnostic herror).1 ⟨hcode, hmessage⟩
    exact ⟨site, mem_sites_iff.1 (by simp [hsites]), hlimit⟩
  · exact (Counting.does_reduceChild child counters.slots counters.depth).depth_eq

/-- Some nodes, one inside the other, with a token inside the last one. -/
def chainOf : Nat → Child
  | 0 => .token "a"
  | n + 1 => .node "group" [chainOf n] none

/-- The tree of a schema with such a chain in the place of its columns. -/
def treeOfChain (n : Nat) : Node :=
  ⟨"schema", [.node "prolog" [.token "version 1.0"] none, chainOf n], none⟩

theorem reduceChild_chainOf {room n : Nat} (h : room < n) (slot : Nat) :
    reduceChild room slot (chainOf n) =
      .error (Fault.tooDeep.diagnostic.atNode "group" none) := by
  induction n generalizing room with
  | zero => cases h
  | succ n ih =>
      cases room with
      | zero => rfl
      | succ room =>
          rw [chainOf, reduceChild, reduceChildren, ih (Nat.lt_of_succ_lt_succ h)]
          rfl

/-- A chain that reaches one node beyond the limit, behind a part of the tree that is reduced. -/
theorem ofTree_limits_nesting_of_chain :
    let tree := treeOfChain 256
    let diagnostic := (Fault.tooDeep.diagnostic.atNode "group" none).atNode "schema" none
    (tree.IsTooDeep ∧ ofTree tree = .error diagnostic ∧ diagnostic.code = 103 ∧
      diagnostic.message = "tree nesting exceeds 256 levels") ∧
    (∃ diagnostic, ofTree tree = .error diagnostic) ∧ tree.IsTooDeep ∧
    (∃ site fault, RaisesFirst tree.sites site fault ∧ maxDepth < site.path.length) ∧
    (Counting.reduceChild (chainOf 256) ⟨0, 1⟩).2.depth = 1 := by
  intro tree diagnostic
  have hdeep : tree.IsTooDeep := Node.isTooDeep_iff.2 (by decide +kernel)
  have herror : ofTree tree = .error diagnostic := by
    have hprolog : reduceChild 255 0 (.node "prolog" [.token "version 1.0"] none) =
        .ok (.prolog .v10 .initial, 0) := by
      with_unfolding_all rfl
    have hroot : reduceChild maxDepth 0 tree.toChild = .error diagnostic := by
      change reduceChild (255 + 1) 0 (.node "schema"
        [.node "prolog" [.token "version 1.0"] none, chainOf 256] none) = _
      rw [reduceChild, reduceChildren, hprolog]
      simp only [bind, Except.bind, reduceChildren, reduceChild_chainOf (Nat.lt_succ_self 255)]
      rfl
    rw [ofTree, hroot]
    rfl
  obtain ⟨hrefused, honly, hfirst, -, hcount⟩ := ofTree_limits_nesting tree
  have hmessage : diagnostic.message = "tree nesting exceeds 256 levels" := Fault.message_tooDeep
  exact ⟨⟨hdeep, herror, rfl, hmessage⟩, hrefused hdeep, honly diagnostic herror rfl hmessage,
    (hfirst diagnostic herror).1 ⟨rfl, hmessage⟩, hcount (chainOf 256) ⟨0, 1⟩⟩

end Schema

end CsvSchema
