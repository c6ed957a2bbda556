import CsvSchema.Reduction.NodeKind

/-!
# Reduction of parse trees

A node is reduced after its children, which are reduced from left to right, and the first fault
ends the reduction.  Comments vanish.  Slots of memory are given out in the order in which the
nodes that need them are finished.  A node with an unknown tag and a single part is a wrapper of
the grammar and stands for that part.

The reduction is given twice.  `Counting.ofTree` has two counters that change as it goes along: how
many slots have been given out, and how many nodes it is inside of.  A node is entered only if the
second counter has not reached the limit, and it is left however its reduction ended.
`Schema.ofTree` is told the next free slot and the depth that is left instead.
-/

namespace CsvSchema

/-- What a tag makes of some parts, with the next free slot. -/
def reduceTag (tag : String) (slot : Nat) (parts : List Part) : Except Fault (Part × Nat) :=
  match NodeKind.ofTag? tag with
  | some kind => (kind.reduce slot parts).map fun part => (part, slot + kind.slots)
  | none =>
      if looksLikeDirective tag then .error (.unknownDirective tag)
      else
        match parts with
        | [part] => .ok (part, slot)
        | _ => .error (.unknownNode tag parts.length)

/-- Say where a fault arose. -/
def raiseAt {α : Type} (tag : String) (span : Option Span) : Except Fault α → Except Diagnostic α
  | .ok a => .ok a
  | .error fault => .error (fault.diagnostic.atNode tag span)

/-- Note that a diagnostic passed a node. -/
def passAt {α : Type} (tag : String) (span : Option Span) :
    Except Diagnostic α → Except Diagnostic α
  | .ok a => .ok a
  | .error diagnostic => .error (diagnostic.atNode tag span)

mutual

/-- Reduce a child below which at most `room` nodes may stand on a path, itself
included, when `slot` is the next free slot. -/
def reduceChild (room slot : Nat) : Child → Except Diagnostic (Part × Nat)
  | .token text => .ok (.token text, slot)
  | .node tag children span =>
      match room with
      | 0 => raiseAt tag span (.error .tooDeep)
      | room + 1 => do
          let (parts, slot) ← passAt tag span (reduceChildren room slot children)
          raiseAt tag span (reduceTag tag slot parts)

/-- Reduce children from left to right, comments left out. -/
def reduceChildren (room slot : Nat) : List Child → Except Diagnostic (List Part × Nat)
  | [] => .ok ([], slot)
  | child :: rest => do
      let (part, slot) ← reduceChild room slot child
      let (parts, slot) ← reduceChildren room slot rest
      return (if part.isComment then parts else part :: parts, slot)

end

/-- The schema that a parse tree stands for. -/
def Schema.ofTree (tree : Node) : Except Diagnostic Schema := do
  let (part, _) ← reduceChild maxDepth 0 tree.toChild
  match part with
  | .schema schema => return schema
  | part => raiseAt tree.tag tree.span (.error (.rootIsNoSchema part.kind))

/-- Where a reduction stands. -/
structure Counters where
  /-- The slots that have been given out. -/
  slots : Nat
  /-- The nodes that the reduction is inside of. -/
  depth : Nat
  deriving Repr, DecidableEq

/-- The counters before the root of a tree is entered. -/
def Counters.start : Counters := ⟨0, 0⟩

/-- A part of a reduction.  The counters go on from where they were left, also after a failure. -/
abbrev Counting := ExceptT Diagnostic (StateM Counters)

namespace Counting

/-- Do something inside a node, which is left again in any case. -/
def inside {α : Type} (action : Counting α) : Counting α := fun counters =>
  let (result, counters) := action { counters with depth := counters.depth + 1 }
  (result, { counters with depth := counters.depth - 1 })

/-- Note that a diagnostic passed a node. -/
def passing {α : Type} (tag : String) (span : Option Span) (action : Counting α) : Counting α :=
  fun counters =>
    let (result, counters) := action counters
    (passAt tag span result, counters)

/-- What a tag makes of some parts.  Slots are given out only if it makes something of them. -/
def dispatch (tag : String) (span : Option Span) (parts : List Part) : Counting Part :=
  fun counters =>
    match reduceTag tag counters.slots parts with
    | .ok (part, slots) => (.ok part, { counters with slots })
    | .error fault => (raiseAt tag span (.error fault), counters)

mutual

/-- Reduce a child. -/
def reduceChild : Child → Counting Part
  | .token text => return .token text
  | .node tag children span => do
      if maxDepth ≤ (← getThe Counters).depth then
        MonadExcept.ofExcept (raiseAt tag span (.error .tooDeep))
      else
        passing tag span <| inside do
          let parts ← reduceChildren children
          dispatch tag span parts

/-- Reduce children from left to right, comments left out. -/
def reduceChildren : List Child → Counting (List Part)
  | [] => return []
  | child :: rest => do
      let part ← reduceChild child
      let parts ← reduceChildren rest
      return if part.isComment then parts else part :: parts

end

/-- The schema that a parse tree stands for. -/
def ofTree (tree : Node) : Counting Schema := do
  match ← reduceChild tree.toChild with
  | .schema schema => return schema
  | part => MonadExcept.ofExcept (raiseAt tree.tag tree.span (.error (.rootIsNoSchema part.kind)))

end Counting

end CsvSchema
