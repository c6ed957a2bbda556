import CsvSchema.Storage.Basic
import CsvSchema.Digest.Algorithm

/-!
# Remembered answers about files

A run may remember what it was told about a path.  Answers are remembered by the parts of the path,
so another spelling of the same path gets the answer that the first one got.
-/

namespace CsvSchema

/-- The answer to a question: the one that is remembered, or else a new one, which is
remembered from then on. -/
def askOnce {κ β : Type} [BEq κ] (known : List (κ × β)) (key : κ) (answer : Unit → β) :
    β × List (κ × β) :=
  match known.lookup key with
  | some remembered => (remembered, known)
  | none =>
      let fresh := answer ()
      (fresh, (key, fresh) :: known)

/-- The answers that a run remembers. -/
structure ProbeCache where
  existence : List (List PathPart × Bool)
  listings : List (List PathPart × Option (List String))
  digests : List ((List PathPart × HashAlgorithm) × Option String)
  spellings : List (List PathPart × Option Path)

/-- The answers that a run remembers, if it does remember any. -/
abbrev Probes := Option ProbeCache

namespace Probes

/-- What a run knows at its start. -/
def start (memoize : Bool) : Probes := if memoize then some ⟨[], [], [], []⟩ else none

/-- Whether a path names anything. -/
def has (storage : Storage) (path : Path) : StateM Probes Bool
  | none => (storage.has path, none)
  | some cache =>
      let (answer, existence) := askOnce cache.existence path.parts fun _ => storage.has path
      (answer, some { cache with existence })

/-- The names in a folder. -/
def list? (storage : Storage) (path : Path) : StateM Probes (Option (List String))
  | none => (storage.list? path, none)
  | some cache =>
      let (answer, listings) := askOnce cache.listings path.parts fun _ => storage.list? path
      (answer, some { cache with listings })

/-- The digest of a file as it is computed. -/
def freshDigest? (storage : Storage) (path : Path) (algorithm : HashAlgorithm) : Option String :=
  (storage.read? path).map algorithm.hexDigest

/-- The digest of a file. -/
def digest? (storage : Storage) (path : Path) (algorithm : HashAlgorithm) :
    StateM Probes (Option String)
  | none => (freshDigest? storage path algorithm, none)
  | some cache =>
      let (answer, digests) := askOnce cache.digests (path.parts, algorithm) fun _ =>
        freshDigest? storage path algorithm
      (answer, some { cache with digests })

/-- A path that exists and differs from `path` in letter case only. -/
def resolveCaseless? (storage : Storage) (path : Path) : StateM Probes (Option Path)
  | none => (storage.resolveCaseless? path, none)
  | some cache =>
      let (answer, spellings) := askOnce cache.spellings path.parts fun _ =>
        storage.resolveCaseless? path
      (answer, some { cache with spellings })

end Probes

end CsvSchema
