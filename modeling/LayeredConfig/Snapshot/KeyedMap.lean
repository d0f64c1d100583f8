import LayeredConfig.Json.Members
import LayeredConfig.Snapshot.Classes

/-!
# Maps with several spellings of a key

The keys of a map may be equal although they are spelled differently: two paths to a file are equal when
they have the same components. Writing to a key that is there replaces the value and leaves the spelling
as it is, so a merge shows the keys of the weaker map in the weaker map's spelling.
-/
set_option autoImplicit false

namespace LayeredConfig

namespace Keyed

variable {κ α : Type} [DecidableEq κ] (key : String → κ)

def held? (wanted : κ) (entries : Members α) : Option (String × α) :=
  List.find? (fun entry => key entry.1 = wanted) entries

/-- Put a value at the key of a spelling. An entry that is there keeps its spelling. -/
def put (spelling : String) (value : α) : Members α → Members α
  | [] => [(spelling, value)]
  | (other, held) :: rest =>
      if key other = key spelling then (other, value) :: rest
      else (other, held) :: put spelling value rest

def Distinct (entries : Members α) : Prop :=
  (entries.map fun entry => key entry.1).Nodup

theorem mem_keys_put (spelling : String) (value : α) (entries : Members α) (wanted : κ) :
    wanted ∈ (put key spelling value entries).map (fun entry => key entry.1) ↔
      wanted = key spelling ∨ wanted ∈ entries.map fun entry => key entry.1 := by
  induction entries with
  | nil => simp [put]
  | cons entry rest ih =>
      simp only [put]
      split
      · rename_i same
        simp [same]
      · simp only [List.map_cons, List.mem_cons, ih]
        exact or_left_comm

theorem Distinct.put {key : String → κ} {spelling : String} {value : α} {entries : Members α}
    (distinct : Distinct key entries) : Distinct key (Keyed.put key spelling value entries) := by
  induction entries with
  | nil => simp [Distinct, Keyed.put]
  | cons entry rest ih =>
      obtain ⟨fresh, restDistinct⟩ := List.nodup_cons.1 distinct
      simp only [Keyed.put]
      split
      · exact distinct
      · rename_i different
        refine List.nodup_cons.2 ⟨fun found => ?_, ih restDistinct⟩
        rcases (mem_keys_put key spelling value rest _).1 found with same | found
        · exact different same
        · exact fresh found

/-- Every entry of the weaker side is kept, and entries of both sides merge. -/
def mergeEntries [Mergeable α] : Members α → Members α → Members α
  | [], weak => weak
  | (spelling, value) :: rest, weak =>
      let merged := (held? key (key spelling) weak).elim value fun entry => merge value entry.2
      put key spelling merged (mergeEntries rest weak)

theorem Distinct.merge [Mergeable α] {key : String → κ} {strong weak : Members α}
    (distinct : Distinct key weak) :
    Distinct key (mergeEntries key strong weak) := by
  induction strong with
  | nil => exact distinct
  | cons entry rest ih => exact ih.put

end Keyed

/-- A map in which a key may have several spellings; `key` says which spellings mean one key. -/
structure KeyedMap {κ : Type} [DecidableEq κ] (key : String → κ) (α : Type) where
  entries : Members α
  distinct : Keyed.Distinct key entries

namespace KeyedMap

variable {κ α : Type} [DecidableEq κ] {key : String → κ}

instance [Mergeable α] : Mergeable (KeyedMap key α) where
  merge stronger weaker :=
    ⟨Keyed.mergeEntries key stronger.entries weaker.entries, weaker.distinct.merge⟩
  stepsOf
    | [] => []
    | segment :: rest => ⟨segment, .map⟩ :: Mergeable.stepsOf α rest

/-- A map is written with its keys as they are spelled. Of members with equal keys the first one gives the
spelling and the last one the value. -/
instance [Writable α] : Writable (KeyedMap key α) where
  encode map :=
    (map.entries.mapM fun entry => (encode entry.2).map (entry.1, ·)).map fun members =>
      .object (Members.ofList members)
  decode
    | .object members =>
        members.foldlM (fun map member => (decode member.2).map fun value =>
          ⟨Keyed.put key member.1 value map.entries, map.distinct.put⟩) ⟨[], List.nodup_nil⟩
    | _ => none

end KeyedMap

def splitSlashes : List Char → List (List Char)
  | [] => [[]]
  | c :: rest =>
      if c = '/' then [] :: splitSlashes rest
      else
        match splitSlashes rest with
        | [] => [[c]]
        | piece :: more => (c :: piece) :: more

/-- Whether a piece of a file path names something: empty pieces and single dots do not. -/
def namesComponent (piece : List Char) : Bool :=
  !(piece = [] || piece = ['.'])

/-- The components of a file path, by which paths are equal. The root is an empty component at the front,
and a dot counts at the front only. -/
def fileComponents (path : String) : List (List Char) :=
  match splitSlashes path.toList with
  | [] => []
  | [piece] => if piece = [] then [] else [piece]
  | first :: rest => first :: rest.filter namesComponent

end LayeredConfig
