import Mathlib.Data.List.Induction
import CsvSchema.Run.Walk
import CsvSchema.Proofs.Text.Pieces

/-!
# Parts of joined paths

Cutting at slashes takes a text apart where it was put together, so a relative path adds its own
parts to those of the path that it is joined to, and a path written from plain names has these
names for parts.
-/

namespace CsvSchema

namespace Text

variable {α : Type}

theorem head?_append {s : List α} (h : s ≠ []) (rest : List α) : (s ++ rest).head? = s.head? := by
  cases s with
  | nil => exact absurd rfl h
  | cons x s => rfl

end Text

/-- A text that is one name in a path. -/
structure IsName (text : List Char) : Prop where
  nonempty : text ≠ []
  noSlash : '/' ∉ text
  notHere : text ≠ ['.']
  notUp : text ≠ ['.', '.']

namespace PathPart

theorem isName_of_ofSegment? {segment text : List Char}
    (h : ofSegment? segment = some (.name text)) (hslash : '/' ∉ segment) : IsName text := by
  unfold ofSegment? at h
  split at h
  · cases h
  · rename_i hempty
    split at h
    · cases h
    · rename_i hup
      cases h
      simp only [Bool.or_eq_true, decide_eq_true_eq, not_or] at hempty
      exact ⟨hempty.1, hslash, hempty.2, hup⟩

theorem ofSegment?_of_isName {text : List Char} (h : IsName text) :
    ofSegment? text = some (.name text) := by
  simp [ofSegment?, h.nonempty, h.notHere, h.notUp]

end PathPart

namespace Path

/-- The parts of a text apart from what it begins with. -/
def innerParts (s : List Char) : List PathPart :=
  (Text.splitOn '/' s).filterMap PathPart.ofSegment?

/-- The part that says where a path begins, if there is one. -/
def startParts (p : Path) : List PathPart :=
  if p.isAbsolute then [.root]
  else if (Text.splitOn '/' p.chars).head? = some ['.'] then [.here]
  else []

theorem join_of_isAbsolute (base : Path) {rest : Path} (h : rest.isAbsolute = true) :
    base.join rest = rest := by
  rw [join, if_pos h]

theorem isAbsolute_join {base : Path} (h : base.isAbsolute = true) (rest : Path) :
    (base.join rest).isAbsolute = true := by
  unfold join
  split
  · rename_i hrest
    exact hrest
  · simp only [isAbsolute, beq_iff_eq] at h
    split <;> simp [isAbsolute, h]

@[simp] theorem nil_join (rest : Path) : (⟨[]⟩ : Path).join rest = rest := by
  unfold join
  split <;> rfl

theorem chars_ne_nil {p : Path} (h : p.parts ≠ []) : p.chars ≠ [] := by
  intro hempty
  obtain rfl : p = ⟨[]⟩ := congrArg Path.mk hempty
  exact h rfl

theorem parts_eq (p : Path) : p.parts = p.startParts ++ innerParts p.chars := by
  unfold parts startParts innerParts
  simp only
  split
  · rfl
  · split <;> rfl

theorem startParts_cases (p : Path) :
    p.startParts = [.root] ∨ p.startParts = [.here] ∨ p.startParts = [] := by
  unfold startParts
  split
  · exact .inl rfl
  · split
    · exact .inr (.inl rfl)
    · exact .inr (.inr rfl)

/-- Behind its beginning a path has only names and parts that lead up. -/
theorem eq_up_or_name_of_mem_innerParts {s : List Char} {part : PathPart}
    (h : part ∈ innerParts s) : part = .up ∨ ∃ text, part = .name text := by
  obtain ⟨segment, -, hpart⟩ := List.mem_filterMap.1 h
  unfold PathPart.ofSegment? at hpart
  split at hpart
  · cases hpart
  · split at hpart
    · cases hpart
      exact .inl rfl
    · cases hpart
      exact .inr ⟨segment, rfl⟩

theorem innerParts_append (s rest : List Char) :
    innerParts (s ++ '/' :: rest) = innerParts s ++ innerParts rest := by
  unfold innerParts Text.splitOn
  rw [Text.splitWhere_append (by decide), List.filterMap_append]

@[simp] theorem innerParts_nil : innerParts [] = [] := rfl

theorem startParts_append {s : List Char} (hs : s ≠ []) (rest : List Char) :
    startParts ⟨s ++ '/' :: rest⟩ = startParts ⟨s⟩ := by
  have hhead : (Text.splitOn '/' (s ++ '/' :: rest)).head? = (Text.splitOn '/' s).head? := by
    unfold Text.splitOn
    rw [Text.splitWhere_append (by decide)]
    exact Text.head?_append (Text.splitWhere_ne_nil _ s) _
  unfold startParts isAbsolute
  simp only [hhead, Text.head?_append hs]

/-- What follows a slash adds its parts. -/
theorem parts_append {s : List Char} (hs : s ≠ []) (rest : List Char) :
    parts ⟨s ++ '/' :: rest⟩ = parts ⟨s⟩ ++ innerParts rest := by
  rw [parts_eq, parts_eq, startParts_append hs, innerParts_append, List.append_assoc]

theorem parts_slash (rest : List Char) : parts ⟨'/' :: rest⟩ = .root :: innerParts rest := by
  have hinner : innerParts ('/' :: rest) = innerParts rest := innerParts_append [] rest
  rw [parts_eq, hinner]
  rfl

/-- A relative path adds its parts, whether the path before it ends with a slash or not. -/
theorem parts_join {base rest : Path} (hbase : base.chars ≠ []) (hrest : rest.isAbsolute = false) :
    (base.join rest).parts = base.parts ++ innerParts rest.chars := by
  obtain ⟨s⟩ := base
  simp only at hbase
  unfold join
  rw [hrest]
  simp only [Bool.false_eq_true, if_false, hbase, decide_false, Bool.false_or,
    decide_eq_true_eq]
  split
  · rename_i hlast
    obtain ⟨front, rfl⟩ := List.getLast?_eq_some_iff.1 hlast
    rw [List.append_assoc, List.singleton_append]
    cases front with
    | nil => rw [List.nil_append, List.nil_append, parts_slash, parts_slash]; rfl
    | cons c front =>
        rw [parts_append (List.cons_ne_nil c front), parts_append (List.cons_ne_nil c front),
          innerParts_nil, List.append_nil]
  · exact parts_append hbase rest.chars

theorem parts_join_nil (base : Path) : (base.join ⟨[]⟩).parts = base.parts := by
  by_cases hbase : base.chars = []
  · obtain rfl : base = ⟨[]⟩ := congrArg Path.mk hbase
    rfl
  · rw [parts_join hbase rfl, innerParts_nil, List.append_nil]

/-- A part of a path stands at its beginning, or it is a name or leads up. -/
theorem eq_nil_or_inner {p : Path} {front rest : List PathPart} {part : PathPart}
    (hp : p.parts = front ++ part :: rest) :
    front = [] ∨ part = .up ∨ ∃ text, part = .name text := by
  cases front with
  | nil => exact .inl rfl
  | cons first front =>
      refine .inr (eq_up_or_name_of_mem_innerParts (s := p.chars) ?_)
      have hmem : part ∈ p.parts.tail := by simp [hp]
      rw [parts_eq] at hmem
      rcases p.startParts_cases with hstart | hstart | hstart <;> rw [hstart] at hmem
      · exact hmem
      · exact hmem
      · exact List.mem_of_mem_tail hmem

section Here

/-- A path that has a dot for its first part begins with it. -/
theorem startParts_of_here {p : Path} {rest : List PathPart} (h : p.parts = .here :: rest) :
    p.startParts = [.here] := by
  rw [parts_eq] at h
  rcases p.startParts_cases with hstart | hstart | hstart
  · simp [hstart] at h
  · exact hstart
  · rw [hstart, List.nil_append] at h
    rcases eq_up_or_name_of_mem_innerParts (h ▸ List.mem_cons_self) with hup | ⟨text, hname⟩
    · cases hup
    · cases hname

theorem head?_of_here {p : Path} {rest : List PathPart} (h : p.parts = .here :: rest) :
    p.chars.head? = some '.' := by
  have hstart := startParts_of_here h
  obtain ⟨s⟩ := p
  have hhead : (Text.splitOn '/' s).head? = some ['.'] := by
    unfold startParts at hstart
    split at hstart
    · cases hstart
    · split at hstart
      · rename_i hhead
        exact hhead
      · cases hstart
  cases s with
  | nil => cases hhead
  | cons c s =>
      simp only [Text.splitOn, Text.splitWhere] at hhead
      split at hhead
      · cases hhead
      · cases hpieces : Text.splitWhere (· == '/') s <;> simp_all [Text.consFirst]

/-- A relative path that begins with a dot goes on as it began. -/
theorem parts_join_of_here {base rest : Path} {inner : List PathPart}
    (h : base.parts = .here :: inner) (hrelative : (base.join rest).isAbsolute = false) :
    (base.join rest).parts = .here :: (inner ++ innerParts rest.chars) := by
  have hrest : rest.isAbsolute = false := by
    rw [Bool.eq_false_iff]
    intro habsolute
    rw [join_of_isAbsolute base habsolute, habsolute] at hrelative
    cases hrelative
  rw [parts_join (chars_ne_nil (by simp [h])) hrest, h, List.cons_append]


end Here

section Names

/-- The parts that lead to an entry by its names. -/
def nameParts (names : List (List Char)) : List PathPart := names.map .name

theorem splitOn_of_isName {text : List Char} (h : IsName text) :
    Text.splitOn '/' text = [text] := by
  refine Text.splitWhere_of_forall_not fun c hc => ?_
  rw [beq_eq_false_iff_ne]
  rintro rfl
  exact h.noSlash hc

theorem innerParts_of_isName {text : List Char} (h : IsName text) :
    innerParts text = [.name text] := by
  simp [innerParts, splitOn_of_isName h, PathPart.ofSegment?_of_isName h]

theorem innerParts_namesPath {names : List (List Char)} (h : ∀ name ∈ names, IsName name) :
    innerParts (namesPath names).chars = nameParts names := by
  simp only [namesPath]
  induction names with
  | nil => rfl
  | cons name rest ih =>
      obtain ⟨hfirst, hrest⟩ := List.forall_mem_cons.1 h
      cases rest with
      | nil => simpa [nameParts] using innerParts_of_isName hfirst
      | cons next rest =>
          rw [List.intercalate_cons_cons, List.append_assoc, List.singleton_append,
            innerParts_append, ih hrest, innerParts_of_isName hfirst]
          rfl

theorem isAbsolute_append_of_isName {text : List Char} (h : IsName text) (rest : List Char) :
    (⟨text ++ rest⟩ : Path).isAbsolute = false := by
  cases text with
  | nil => exact absurd rfl h.nonempty
  | cons c text =>
      have hc : c ≠ '/' := fun heq => h.noSlash (heq ▸ List.mem_cons_self)
      simpa [isAbsolute] using hc

theorem isAbsolute_of_isName {text : List Char} (h : IsName text) :
    (⟨text⟩ : Path).isAbsolute = false := by
  have habsolute := isAbsolute_append_of_isName h []
  rwa [List.append_nil] at habsolute

theorem isAbsolute_namesPath {names : List (List Char)} (h : ∀ name ∈ names, IsName name) :
    (namesPath names).isAbsolute = false := by
  match names with
  | [] => rfl
  | [name] => simpa [namesPath] using isAbsolute_of_isName (h name (by simp))
  | name :: next :: rest =>
      rw [namesPath, List.intercalate_cons_cons, List.append_assoc]
      exact isAbsolute_append_of_isName (h name (by simp)) _

/-- Names lead from a folder to the entry with these names after its own parts. -/
theorem parts_join_namesPath {base : Path} (hbase : base.chars ≠ []) {names : List (List Char)}
    (h : ∀ name ∈ names, IsName name) :
    (base.join (namesPath names)).parts = base.parts ++ nameParts names := by
  rw [parts_join hbase (isAbsolute_namesPath h), innerParts_namesPath h]

/-- A name adds itself, also where nothing is before it. -/
theorem parts_join_name (base : Path) {text : List Char} (h : IsName text) :
    (base.join ⟨text⟩).parts = base.parts ++ [.name text] := by
  by_cases hbase : base.chars = []
  · obtain rfl : base = ⟨[]⟩ := congrArg Path.mk hbase
    have hstart : (⟨text⟩ : Path).startParts = [] := by
      simp [startParts, isAbsolute_of_isName h, splitOn_of_isName h, h.notHere]
    rw [nil_join, parts_eq, hstart, innerParts_of_isName h]
    rfl
  · rw [parts_join hbase (isAbsolute_of_isName h), innerParts_of_isName h]

/-- A part that leads up adds itself in the same way. -/
theorem parts_join_up (base : Path) : (base.join ⟨['.', '.']⟩).parts = base.parts ++ [.up] := by
  by_cases hbase : base.chars = []
  · obtain rfl : base = ⟨[]⟩ := congrArg Path.mk hbase
    rfl
  · exact parts_join hbase rfl

/-- All names in a path are names. -/
theorem isName_of_mem_parts {p : Path} {text : List Char} (h : .name text ∈ p.parts) :
    IsName text := by
  have hinner : .name text ∈ innerParts p.chars := by
    rw [parts_eq, List.mem_append] at h
    rcases h with h | h
    · rcases p.startParts_cases with hstart | hstart | hstart <;> simp [hstart] at h
    · exact h
  obtain ⟨segment, hsegment, hpart⟩ := List.mem_filterMap.1 hinner
  refine PathPart.isName_of_ofSegment? hpart fun hslash => ?_
  have hplain := Text.forall_not_of_mem_splitWhere hsegment '/' hslash
  simp at hplain

theorem chars_namesPath_concat {front : List (List Char)} (h : front ≠ []) (name : List Char) :
    (namesPath (front ++ [name])).chars = (namesPath front).chars ++ '/' :: name := by
  simp only [namesPath]
  induction front with
  | nil => exact absurd rfl h
  | cons first rest ih =>
      cases rest with
      | nil => simp
      | cons next rest =>
          rw [List.cons_append, List.cons_append, List.intercalate_cons_cons,
            List.intercalate_cons_cons, ← List.cons_append, ih (List.cons_ne_nil next rest)]
          simp

/-- A path that names write ends with its last name. -/
theorem getLast?_namesPath_concat (front : List (List Char)) {name : List Char} (h : IsName name) :
    (namesPath (front ++ [name])).chars.getLast? = name.getLast? := by
  by_cases hfront : front = []
  · simp [hfront, namesPath]
  · rw [chars_namesPath_concat hfront, List.getLast?_append, List.getLast?_cons]
    cases hlast : name.getLast? with
    | none => exact absurd (List.getLast?_eq_none_iff.1 hlast) h.nonempty
    | some c => simp

/-- Names are written one behind the other. -/
theorem namesPath_join_name {front : List (List Char)} (hfront : ∀ name ∈ front, IsName name)
    {name : List Char} (h : IsName name) :
    (namesPath front).join ⟨name⟩ = namesPath (front ++ [name]) := by
  rcases List.eq_nil_or_concat front with rfl | ⟨init, last, rfl⟩
  · simp [namesPath]
  · rw [List.concat_eq_append] at hfront ⊢
    have hlast : IsName last := hfront last (by simp)
    have hend := getLast?_namesPath_concat init hlast
    have hslash : (namesPath (init ++ [last])).chars.getLast? ≠ some '/' := by
      intro heq
      rw [hend] at heq
      exact hlast.noSlash (List.mem_of_getLast? heq)
    have hne : (namesPath (init ++ [last])).chars ≠ [] := by
      intro hempty
      rw [hempty, List.getLast?_nil, eq_comm, List.getLast?_eq_none_iff] at hend
      exact hlast.nonempty hend
    rw [join, isAbsolute_of_isName h, ← chars_namesPath_concat (by simp) name]
    simp [hslash, hne]

/-- The parts of a path that names write are these names. -/
theorem parts_namesPath {names : List (List Char)} (h : ∀ name ∈ names, IsName name) :
    (namesPath names).parts = nameParts names := by
  induction names using List.reverseRecOn with
  | nil => rfl
  | append_singleton front name ih =>
      have hfront : ∀ name ∈ front, IsName name := fun x hx => h x (List.mem_append_left _ hx)
      have hname : IsName name := h name (by simp)
      rw [← namesPath_join_name hfront hname, parts_join_name _ hname, ih hfront, nameParts,
        nameParts, List.map_append]
      rfl

end Names

section Order

open KeyOrder

/-- Paths that begin alike are ordered by what follows. -/
theorem listBefore_append_left {κ : Type} [KeyOrder κ] (front as bs : List κ) :
    listBefore (front ++ as) (front ++ bs) = listBefore as bs := by
  induction front with
  | nil => rfl
  | cons x front ih => simp [listBefore, KeyOrder.irrefl, ih]

theorem listBefore_map {κ ι : Type} [KeyOrder κ] [KeyOrder ι] {f : κ → ι}
    (h : ∀ a b, before (f a) (f b) = before a b) (as bs : List κ) :
    listBefore (as.map f) (bs.map f) = listBefore as bs := by
  induction as generalizing bs with
  | nil => cases bs <;> rfl
  | cons a as ih =>
      cases bs with
      | nil => rfl
      | cons b bs => simp only [List.map_cons, listBefore, h, ih]

/-- Names in paths are ordered as texts. -/
theorem before_name (a b : List Char) :
    before (PathPart.name a) (PathPart.name b) = before a b := by
  change listBefore (3 :: a.map Char.toNat) (3 :: b.map Char.toNat) = listBefore a b
  have hcodes := listBefore_map (f := Char.toNat) (fun _ _ => rfl) a b
  simp [listBefore, KeyOrder.irrefl, hcodes]

/-- The order of paths that names write is the order of the lists of their names. -/
theorem before_nameParts (a b : List (List Char)) :
    before (nameParts a) (nameParts b) = before a b := listBefore_map before_name a b

end Order

end Path

end CsvSchema
