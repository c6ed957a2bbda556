import CsvSchema.Proofs.Trivia
import CsvSchema.Proofs.Diagnostics.Faults

/-!
# Where diagnostics point

A tree is reduced node by node, the nodes below one before it, and the first fault ends the
reduction.  The diagnostic of a tree that does not build names the node that raised this fault, and
its place is the nearest one on the way from there up to the root, `Schema.ofTree_eq_error`.
-/

namespace CsvSchema

open Fallible

/-- A node of a tree with the nodes above it, the nearest one first. -/
structure Site where
  node : Node
  above : List Node

namespace Site

/-- The nodes on the way from a site up to the root. -/
def path (site : Site) : List Node := site.node :: site.above

/-- Whether a site is one of a tree. -/
inductive IsIn (tree : Node) : Site → Prop
  | root : IsIn tree ⟨tree, []⟩
  | child {site : Site} {node : Node} (h : IsIn tree site)
      (hnode : node.toChild ∈ site.node.children) : IsIn tree ⟨node, site.path⟩

/-- A fault that comes up at a site itself and not below it.  It does not matter where the numbering
of slots starts. -/
inductive Raises (site : Site) : Fault → Prop
  /-- The node is too deep to be looked into. -/
  | tooDeep (hdepth : maxDepth ≤ site.above.length) : Raises site .tooDeep
  /-- The nodes below are reduced, and the tag makes nothing of their parts. -/
  | tag {slot next : Nat} {parts : List Part} {fault : Fault}
      (hdepth : site.above.length < maxDepth)
      (hbelow : reduceChildren (maxDepth - (site.above.length + 1)) slot site.node.children =
        .ok (parts, next))
      (htag : reduceTag site.node.tag next parts = .error fault) : Raises site fault
  /-- The root is reduced, and not to a schema. -/
  | root {slot next : Nat} {part : Part} (habove : site.above = [])
      (hpart : reduceChild maxDepth slot site.node.toChild = .ok (part, next))
      (hschema : ∀ schema, part ≠ .schema schema) : Raises site (.rootIsNoSchema part.kind)

end Site

mutual

/-- The nodes of a child in the order in which they are reduced: from left to right and from below,
but a node that is too deep comes before those below it. -/
def Child.sites (above : List Node) : Child → List Site
  | .token _ => []
  | .node tag children span =>
      let node : Node := ⟨tag, children, span⟩
      if above.length < maxDepth then childrenSites (node :: above) children ++ [⟨node, above⟩]
      else ⟨node, above⟩ :: childrenSites (node :: above) children

/-- The nodes of some children in the order in which they are reduced. -/
def childrenSites (above : List Node) : List Child → List Site
  | [] => []
  | child :: rest => child.sites above ++ childrenSites above rest

end

/-- The nodes of a tree in the order in which they are reduced. -/
def Node.sites (tree : Node) : List Site := tree.toChild.sites []

section Sites

variable {above : List Node} {site : Site}

theorem mem_sites_node {tag : String} {children : List Child} {span : Option Span} :
    site ∈ (Child.node tag children span).sites above ↔
      site = ⟨⟨tag, children, span⟩, above⟩ ∨
        site ∈ childrenSites (⟨tag, children, span⟩ :: above) children := by
  simp only [Child.sites]
  split
  · rw [List.mem_append, List.mem_singleton, or_comm]
  · exact List.mem_cons

theorem mem_childrenSites {children : List Child} :
    site ∈ childrenSites above children ↔ ∃ child ∈ children, site ∈ child.sites above := by
  induction children with
  | nil => simp [childrenSites]
  | cons child rest ih =>
      rw [childrenSites, List.mem_append, ih]
      simp

theorem mem_sites_self (node : Node) (above : List Node) :
    (⟨node, above⟩ : Site) ∈ node.toChild.sites above := mem_sites_node.2 (.inl rfl)

/-- The root of a tree comes last. -/
theorem sites_eq_append (tree : Node) :
    tree.sites = childrenSites [tree] tree.children ++ [⟨tree, []⟩] := by
  simp [Node.sites, Node.toChild, Child.sites, maxDepth]

mutual

/-- Below a site of a tree only sites of the tree are listed. -/
theorem isIn_of_mem_sites {tree : Node} {above : List Node} {tag : String} {children : List Child}
    {span : Option Span} (hnode : (⟨⟨tag, children, span⟩, above⟩ : Site).IsIn tree)
    (h : site ∈ (Child.node tag children span).sites above) : site.IsIn tree := by
  rcases mem_sites_node.1 h with rfl | hbelow
  · exact hnode
  · exact isIn_of_mem_childrenSites (fun _ hmem => .child hnode hmem) hbelow

theorem isIn_of_mem_childrenSites {tree : Node} {above : List Node} {children : List Child}
    (hchildren : ∀ node : Node, node.toChild ∈ children → (⟨node, above⟩ : Site).IsIn tree)
    (h : site ∈ childrenSites above children) : site.IsIn tree := by
  cases children with
  | nil => cases h
  | cons child rest =>
      rcases List.mem_append.1 h with hfirst | hlater
      · cases child with
        | token text => cases hfirst
        | node tag below span =>
            exact isIn_of_mem_sites (hchildren ⟨tag, below, span⟩ List.mem_cons_self) hfirst
      · exact isIn_of_mem_childrenSites
          (fun node hmem => hchildren node (List.mem_cons_of_mem _ hmem)) hlater

end

mutual

/-- With a site the nodes right below it are listed. -/
theorem mem_sites_child {node : Node} (hnode : node.toChild ∈ site.node.children)
    {above : List Node} {child : Child} (h : site ∈ child.sites above) :
    (⟨node, site.path⟩ : Site) ∈ child.sites above := by
  cases child with
  | token text => cases h
  | node tag children span =>
      refine mem_sites_node.2 (.inr ?_)
      rcases mem_sites_node.1 h with rfl | hbelow
      · exact mem_childrenSites.2 ⟨_, hnode, mem_sites_self node _⟩
      · exact mem_childrenSites_child hnode hbelow

theorem mem_childrenSites_child {node : Node} (hnode : node.toChild ∈ site.node.children)
    {above : List Node} {children : List Child} (h : site ∈ childrenSites above children) :
    (⟨node, site.path⟩ : Site) ∈ childrenSites above children := by
  cases children with
  | nil => cases h
  | cons child rest =>
      rcases List.mem_append.1 h with hfirst | hlater
      · exact List.mem_append_left _ (mem_sites_child hnode hfirst)
      · exact List.mem_append_right _ (mem_childrenSites_child hnode hlater)

end

/-- All nodes of a tree are listed, and nothing else. -/
theorem mem_sites_iff {tree : Node} : site ∈ tree.sites ↔ site.IsIn tree := by
  constructor
  · exact isIn_of_mem_sites .root
  · intro h
    induction h with
    | root => exact mem_sites_self tree []
    | child h hnode ih => exact mem_sites_child hnode ih

end Sites

section Raising

/-- A node that reduces raises no fault of its own, unless it is a root that is no schema. -/
theorem of_raises_of_reduceChild {above : List Node} {node : Node} {slot next : Nat} {part : Part}
    {fault : Fault} (hraises : (⟨node, above⟩ : Site).Raises fault)
    (h : reduceChild (maxDepth - above.length) slot node.toChild = .ok (part, next)) :
    above = [] ∧ ∃ slot' part' next', reduceChild maxDepth slot' node.toChild = .ok (part', next') ∧
      ∀ schema, part' ≠ .schema schema := by
  obtain ⟨below, -, -, hroom, -, -⟩ := reduceChild_node_eq_ok.1 h
  cases hraises with
  | tooDeep hdepth => exact absurd hdepth (by dsimp only; omega)
  | root hroot hpart hschema => exact ⟨hroot, _, _, _, hpart, hschema⟩
  | @tag slot' _ _ _ _ hbelow htag =>
      -- From any other slot the node reduces as well.
      obtain ⟨below', _, _, hroom', hchildren, hmade⟩ :=
        reduceChild_node_eq_ok.1 (reduceChild_shift h (Nat.le_refl _) slot')
      obtain rfl : below' = maxDepth - (above.length + 1) := by omega
      obtain ⟨rfl, rfl⟩ := Prod.mk.inj (Except.ok.inj (hchildren.symm.trans hbelow))
      exact nomatch hmade.symm.trans htag

mutual

/-- Nothing that reduces below the root raises a fault. -/
theorem not_raises_of_reduceChild {above : List Node} (habove : above ≠ []) {slot next : Nat}
    {child : Child} {part : Part}
    (h : reduceChild (maxDepth - above.length) slot child = .ok (part, next)) :
    ∀ site ∈ child.sites above, ∀ fault, ¬ site.Raises fault := by
  cases child with
  | token text => exact fun _ hmem => nomatch hmem
  | node tag children span =>
      obtain ⟨below, parts, middle, hroom, hchildren, -⟩ := reduceChild_node_eq_ok.1 h
      obtain rfl : below = maxDepth - (above.length + 1) := by omega
      intro site hsite fault hraises
      rcases mem_sites_node.1 hsite with rfl | hbelow
      · exact habove (of_raises_of_reduceChild hraises h).1
      · exact not_raises_of_reduceChildren (List.cons_ne_nil _ above) hchildren site hbelow fault
          hraises

theorem not_raises_of_reduceChildren {above : List Node} (habove : above ≠ [])
    {slot next : Nat} {children : List Child} {parts : List Part}
    (h : reduceChildren (maxDepth - above.length) slot children = .ok (parts, next)) :
    ∀ site ∈ childrenSites above children, ∀ fault, ¬ site.Raises fault := by
  cases children with
  | nil => exact fun _ hmem => nomatch hmem
  | cons child rest =>
      obtain ⟨part, middle, others, hchild, hrest, -⟩ := reduceChildren_cons_eq_ok.1 h
      exact List.forall_mem_append.2 ⟨not_raises_of_reduceChild habove hchild,
        not_raises_of_reduceChildren habove hrest⟩

end

/-- A site is the first one of a list that raises a fault. -/
structure RaisesFirst (sites : List Site) (site : Site) (fault : Fault) : Prop where
  first : ∃ before after, sites = before ++ site :: after ∧
    ∀ earlier ∈ before, ∀ other, ¬ earlier.Raises other
  raises : site.Raises fault

namespace RaisesFirst

variable {sites others : List Site} {site : Site} {fault : Fault}

theorem head (h : site.Raises fault) (others : List Site) :
    RaisesFirst (site :: others) site fault :=
  ⟨⟨[], others, rfl, fun _ hmem => nomatch hmem⟩, h⟩

theorem append (h : RaisesFirst sites site fault) (others : List Site) :
    RaisesFirst (sites ++ others) site fault := by
  obtain ⟨⟨before, after, rfl, hbefore⟩, hraises⟩ := h
  exact ⟨⟨before, after ++ others, by simp, hbefore⟩, hraises⟩

theorem after (h : RaisesFirst sites site fault)
    (hothers : ∀ other ∈ others, ∀ fault, ¬ other.Raises fault) :
    RaisesFirst (others ++ sites) site fault := by
  obtain ⟨⟨before, after, rfl, hbefore⟩, hraises⟩ := h
  exact ⟨⟨others ++ before, after, by simp, List.forall_mem_append.2 ⟨hothers, hbefore⟩⟩, hraises⟩

end RaisesFirst

/-- The diagnostic of a fault that has passed some nodes, the first of which raised it. -/
def Fault.reported (fault : Fault) (path : List Node) : Diagnostic :=
  { fault.diagnostic with
    node := fault.node <|> path.head?.map Node.tag
    span := path.findSome? Node.span }

theorem Fault.reported_singleton (fault : Fault) (node : Node) :
    fault.reported [node] = fault.diagnostic.atNode node.tag node.span := by
  cases hspan : node.span <;> simp [reported, Diagnostic.atNode, Fault.diagnostic, hspan]

theorem Fault.reported_atNode (fault : Fault) (node : Node) (path : List Node) (upper : Node) :
    (fault.reported (node :: path)).atNode upper.tag upper.span =
      fault.reported (node :: path ++ [upper]) := by
  have hspan : (node :: path ++ [upper]).findSome? Node.span =
      ((node :: path).findSome? Node.span <|> upper.span) := by
    rw [List.findSome?_append]
    cases hupper : upper.span <;> simp [hupper]
  simp only [reported, Diagnostic.atNode, hspan]
  cases fault.node <;> simp

mutual

/-- What stops the reduction of a child comes from the first of its sites that raises a fault, and
has passed the nodes from there up to the child. -/
theorem exists_raisesFirst_of_reduceChild {above : List Node} {slot : Nat} {child : Child}
    {diagnostic : Diagnostic}
    (h : reduceChild (maxDepth - above.length) slot child = .error diagnostic) :
    ∃ site fault inner, RaisesFirst (child.sites above) site fault ∧
      site.above = inner ++ above ∧ diagnostic = fault.reported (site.node :: inner) := by
  cases child with
  | token text => cases h
  | node tag children span =>
      let node : Node := ⟨tag, children, span⟩
      by_cases hdepth : above.length < maxDepth
      · obtain ⟨below, hroom⟩ : ∃ below, maxDepth - above.length = below + 1 :=
          ⟨maxDepth - above.length - 1, by omega⟩
        obtain rfl : below = maxDepth - (above.length + 1) := by omega
        simp only [Child.sites, if_pos hdepth]
        simp only [hroom, reduceChild, bind_eq_error] at h
        rcases h with hpass | ⟨⟨parts, next⟩, hchildren, hraise⟩
        -- The fault comes from below, and has passed the node.
        · cases hbelow : reduceChildren (maxDepth - (above.length + 1)) slot children with
          | ok result => rw [hbelow] at hpass; cases hpass
          | error inner =>
              rw [hbelow] at hpass
              cases hpass
              obtain ⟨site, fault, inner, hfirst, habove, rfl⟩ :=
                exists_raisesFirst_of_reduceChildren (List.cons_ne_nil node above) hbelow
              exact ⟨site, fault, inner ++ [node], hfirst.append _, by simp [habove],
                Fault.reported_atNode fault site.node inner node⟩
        -- All below can be reduced, so no site there raises a fault, and the node itself does.
        · rw [passAt_eq_ok] at hchildren
          cases htag : reduceTag tag next parts with
          | ok result => rw [htag] at hraise; cases hraise
          | error fault =>
              rw [htag] at hraise
              cases hraise
              have hraises : (⟨node, above⟩ : Site).Raises fault := .tag hdepth hchildren htag
              have hbelow :=
                not_raises_of_reduceChildren (List.cons_ne_nil node above) hchildren
              exact ⟨⟨node, above⟩, fault, [], (RaisesFirst.head hraises []).after hbelow, rfl,
                (fault.reported_singleton node).symm⟩
      · have hroom : maxDepth - above.length = 0 := by omega
        rw [hroom, reduceChild] at h
        cases h
        simp only [Child.sites, if_neg hdepth]
        exact ⟨⟨node, above⟩, .tooDeep, [], .head (.tooDeep (Nat.le_of_not_lt hdepth)) _, rfl,
          (Fault.reported_singleton .tooDeep node).symm⟩

theorem exists_raisesFirst_of_reduceChildren {above : List Node} (habove : above ≠ [])
    {slot : Nat} {children : List Child} {diagnostic : Diagnostic}
    (h : reduceChildren (maxDepth - above.length) slot children = .error diagnostic) :
    ∃ site fault inner, RaisesFirst (childrenSites above children) site fault ∧
      site.above = inner ++ above ∧ diagnostic = fault.reported (site.node :: inner) := by
  cases children with
  | nil => cases h
  | cons child rest =>
      simp only [reduceChildren, bind_eq_error] at h
      rcases h with hchild | ⟨⟨part, middle⟩, hchild, hrest | ⟨_, -, hpure⟩⟩
      · obtain ⟨site, fault, inner, hfirst, hsite, hdiagnostic⟩ :=
          exists_raisesFirst_of_reduceChild hchild
        exact ⟨site, fault, inner, hfirst.append _, hsite, hdiagnostic⟩
      · obtain ⟨site, fault, inner, hfirst, hsite, hdiagnostic⟩ :=
          exists_raisesFirst_of_reduceChildren habove hrest
        have hearlier := not_raises_of_reduceChild habove hchild
        exact ⟨site, fault, inner, hfirst.after hearlier, hsite, hdiagnostic⟩
      · cases hpure

end

end Raising

section RepeatedColumns

/-- Only the node of a schema raises a fault that is about another node. -/
theorem tag_eq_schema_of_reduceTag {tag : String} {slot : Nat} {parts : List Part} {fault : Fault}
    (h : reduceTag tag slot parts = .error fault) (hnode : fault.node ≠ none) :
    tag = "schema" := by
  rcases isOwn_or_repeatedColumn_of_reduceTag h with hown | ⟨htag, -⟩
  · exact absurd (Fault.node_of_isOwn hown) hnode
  · exact htag

theorem Site.Raises.tag_eq_schema {site : Site} {name : String}
    (h : site.Raises (.repeatedColumn name)) : site.node.tag = "schema" := by
  cases h with
  | tag _ _ htag => exact tag_eq_schema_of_reduceTag htag (Option.some_ne_none _)

end RepeatedColumns

namespace Schema

variable {tree : Node}

/-- The diagnostic of a tree that does not build is that of the fault that the first site raises,
having passed all nodes from there up to the root. -/
theorem exists_raisesFirst_of_ofTree {diagnostic : Diagnostic}
    (h : ofTree tree = .error diagnostic) :
    ∃ site fault, RaisesFirst tree.sites site fault ∧ diagnostic = fault.reported site.path := by
  rw [ofTree, bind_eq_error] at h
  rcases h with hchild | ⟨⟨part, next⟩, hpart, hroot⟩
  · obtain ⟨site, fault, inner, hfirst, habove, rfl⟩ : ∃ site fault inner,
        RaisesFirst tree.sites site fault ∧ site.above = inner ++ [] ∧
          diagnostic = fault.reported (site.node :: inner) :=
      exists_raisesFirst_of_reduceChild hchild
    rw [List.append_nil] at habove
    exact ⟨site, fault, hfirst, by rw [Site.path, habove]⟩
  · have hschema : ∀ schema, part ≠ .schema schema := by
      rintro schema rfl
      cases hroot
    have hdiagnostic : diagnostic = (Fault.rootIsNoSchema part.kind).reported [tree] := by
      rw [Fault.reported_singleton]
      cases part with
      | schema schema => exact absurd rfl (hschema schema)
      | _ =>
          cases hroot
          rfl
    -- The root is the last site, and everything below it has been reduced.
    obtain ⟨below, parts, middle, hroom, hchildren, -⟩ := reduceChild_node_eq_ok.1 hpart
    obtain rfl : below = maxDepth - 1 := by omega
    have hraises : (⟨tree, []⟩ : Site).Raises (.rootIsNoSchema part.kind) := .root rfl hpart hschema
    have hbelow := not_raises_of_reduceChildren (List.cons_ne_nil tree []) hchildren
    exact ⟨⟨tree, []⟩, _, sites_eq_append tree ▸ (RaisesFirst.head hraises []).after hbelow,
      hdiagnostic⟩

/-- A tree builds if and only if none of its sites raises a fault. -/
theorem builds_iff_not_raises :
    (∃ schema, ofTree tree = .ok schema) ↔ ∀ site ∈ tree.sites, ∀ fault, ¬ site.Raises fault := by
  constructor
  · rintro ⟨schema, h⟩
    obtain ⟨next, hpart⟩ := ofTree_eq_ok.1 h
    obtain ⟨below, parts, middle, hroom, hchildren, -⟩ := reduceChild_node_eq_ok.1 hpart
    obtain rfl : below = maxDepth - 1 := by omega
    rw [sites_eq_append]
    have hbelow := not_raises_of_reduceChildren (List.cons_ne_nil tree []) hchildren
    refine List.forall_mem_append.2 ⟨hbelow, List.forall_mem_singleton.2 fun fault hraises => ?_⟩
    obtain ⟨-, slot', part', next', hpart', hschema⟩ := of_raises_of_reduceChild hraises hpart
    rw [reduceChild_shift hpart (Nat.le_refl _) slot'] at hpart'
    cases hpart'
    exact hschema _ rfl
  · intro hnone
    cases h : ofTree tree with
    | ok schema => exact ⟨schema, rfl⟩
    | error diagnostic =>
        obtain ⟨site, fault, ⟨⟨before, after, hsites, -⟩, hraises⟩, -⟩ :=
          exists_raisesFirst_of_ofTree h
        exact absurd hraises (hnone site (by simp [hsites]) fault)

/-- The diagnostic of a tree that does not build points at the first site that raises a fault: it
has the tag of its node, unless a column is repeated, and the place that is the nearest one on the
way up to the root. -/
theorem ofTree_eq_error {diagnostic : Diagnostic} (h : ofTree tree = .error diagnostic) :
    ∃ site fault, RaisesFirst tree.sites site fault ∧ site.IsIn tree ∧
      diagnostic.code = fault.code ∧ diagnostic.message = fault.message ∧
      diagnostic.suggestion = fault.suggestion ∧
      ((∀ name, fault ≠ .repeatedColumn name) → diagnostic.node = some site.node.tag) ∧
      (∀ name, fault = .repeatedColumn name →
        diagnostic.node = some "column_definition" ∧ site.node.tag = "schema") ∧
      diagnostic.span = site.path.findSome? Node.span ∧
      (diagnostic.span = none → ∀ node ∈ site.path, node.span = none) := by
  obtain ⟨site, fault, hfirst, rfl⟩ := exists_raisesFirst_of_ofTree h
  have hmem : site ∈ tree.sites := by
    obtain ⟨⟨before, after, hsites, -⟩, -⟩ := hfirst
    simp [hsites]
  refine ⟨site, fault, hfirst, mem_sites_iff.1 hmem, rfl, rfl, rfl, fun hname => ?_, ?_, rfl,
    List.findSome?_eq_none_iff.1⟩
  · have hnode : fault.node = none := by
      cases fault with
      | repeatedColumn name => exact absurd rfl (hname name)
      | _ => rfl
    simp [Fault.reported, hnode, Site.path]
  · rintro name rfl
    exact ⟨rfl, hfirst.raises.tag_eq_schema⟩

/-- The tree of a schema whose only column, on its third line, has a range with one bound. -/
def treeOfHalfRange : Node :=
  ⟨"schema", [.node "prolog" [.token "version 1.0"] (some (.ofLine 1 11)),
    .node "body" [.node "column_definition" [.token "a:",
        .node "column_rule" [.node "range_expr" [.token "1"] none] none] (some (.ofLine 3 11))]
      none], none⟩

/-- The diagnostic names the range, which has no place, and points at the line of its column. -/
theorem ofTree_eq_error_of_half_range :
    ∃ diagnostic, ofTree treeOfHalfRange = .error diagnostic ∧
      diagnostic.message = "expected 2 children, got 1" ∧
      diagnostic.span = some (.ofLine 3 11) ∧
      ∃ site fault, RaisesFirst treeOfHalfRange.sites site fault ∧ site.node.tag = "range_expr" ∧
        diagnostic.span = site.path.findSome? Node.span := by
  let diagnostic : Diagnostic :=
    ⟨101, "expected 2 children, got 1", some "range_expr", some (.ofLine 3 11), none⟩
  have h : ofTree treeOfHalfRange = .error diagnostic := by with_unfolding_all rfl
  obtain ⟨site, fault, hfirst, -, -, -, -, hnode, hrepeated, hspan, -⟩ := ofTree_eq_error h
  refine ⟨diagnostic, h, rfl, rfl, site, fault, hfirst, ?_, hspan⟩
  by_cases hname : ∃ name, fault = .repeatedColumn name
  · obtain ⟨name, rfl⟩ := hname
    exact absurd (hrepeated name rfl).1 (by decide)
  · exact (Option.some.inj (hnode fun name heq => hname ⟨name, heq⟩)).symm

end Schema

end CsvSchema
