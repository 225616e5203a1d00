import Mathlib.Data.List.Forall2
import BrokerWiring.Proofs.Property.Segments

/-!
# Keys in relaxed form, segment by segment

Relaxing works on the characters of a key, so it also works on its segments: each one loses its
hyphens and underscores and is lowered character by character, and the dots stay between them
(`segments_canonicalKey`). From this come the laws on which look-up, layering and the selection
below a scope rest (`relaxesBySegments`): relaxing goes through the dot between two keys, changes
nothing the second time, and brings two keys together exactly if their segments agree one by one.
-/

namespace BrokerWiring.Property

/-- What a segment counts for: its characters but hyphens and underscores, each one lowered. -/
def foldSegment (segment : String) : String :=
  String.ofList (Text.lowerEach (segment.toList.filter fun c => c != '-' && c != '_'))

/-- Relaxing drops two characters and lowers all others. -/
theorem relaxed_eq_lowerEach (cs : List Char) :
    relaxed cs = Text.lowerEach (cs.filter fun c => c != '-' && c != '_') := by
  induction cs with
  | nil => rfl
  | cons c cs ih =>
    rw [relaxed_cons, ih, List.filter_cons]
    by_cases dropped : c = '-' ∨ c = '_'
    · rw [relaxedChar, if_pos dropped, if_neg (by simpa [or_iff_not_imp_left] using dropped)]
      rfl
    · rw [relaxedChar, if_neg dropped, if_pos (by simpa [not_or] using dropped)]
      exact List.flatMap_cons.symm

theorem foldSegment_ofList (cs : List Char) :
    foldSegment (String.ofList cs) = String.ofList (relaxed cs) := by
  rw [foldSegment, String.toList_ofList, relaxed_eq_lowerEach]

/-- The segments of the relaxed key are those of the key, each one folded. -/
theorem segments_canonicalKey (key : String) :
    segments (canonicalKey key) = (segments key).map foldSegment := by
  rw [segments, toList_canonicalKey, splitOn_dot_relaxed, segments, List.map_map, List.map_map]
  exact List.map_congr_left fun cs _ => (foldSegment_ofList cs).symm

theorem segments_injective : Function.Injective segments :=
  Function.LeftInverse.injective intercalate_segments

/-- Two lists have the same images exactly if they are of one length and the images agree place by
place. -/
theorem map_foldSegment_eq_iff (pieces others : List String) :
    pieces.map foldSegment = others.map foldSegment ↔
      pieces.length = others.length ∧
        ∀ pair ∈ pieces.zip others, foldSegment pair.1 = foldSegment pair.2 := by
  rw [← List.forall₂_eq_eq_eq, List.forall₂_map_left_iff, List.forall₂_map_right_iff,
    List.forall₂_iff_zip, Prod.forall]

/-- What relaxing does to a key, said of its segments and of other keys. -/
structure RelaxesBySegments (key : String) : Prop where
  /-- The relaxed key has the folded segments with the dots between them. -/
  folded : canonicalKey key = ".".intercalate ((segments key).map foldSegment)
  /-- A key below another one has the relaxed forms of both with the dot between them. -/
  joined : ∀ below,
    canonicalKey (key ++ "." ++ below) = canonicalKey key ++ "." ++ canonicalKey below
  /-- A relaxed key stays as it is. -/
  stable : canonicalKey (canonicalKey key) = canonicalKey key
  /-- No dot comes or goes. -/
  dots : (canonicalKey key).toList.count '.' = key.toList.count '.'
  /-- Two keys name the same property exactly if they have equally many segments and these are
  pairwise equal when folded. -/
  same_iff : ∀ other, canonicalKey key = canonicalKey other ↔
    (segments key).length = (segments other).length ∧
      ∀ pair ∈ (segments key).zip (segments other), foldSegment pair.1 = foldSegment pair.2

/-- Relaxing is folding segment by segment, for every key. -/
theorem relaxesBySegments (key : String) : RelaxesBySegments key where
  folded := by rw [← segments_canonicalKey, intercalate_segments]
  joined below := by
    rw [← String.toList_inj, toList_canonicalKey_below]
    simp
  stable := by rw [← String.toList_inj, toList_canonicalKey, toList_canonicalKey, relaxed_relaxed]
  dots := by rw [toList_canonicalKey, count_relaxed]
  same_iff other := by
    rw [← segments_injective.eq_iff, segments_canonicalKey, segments_canonicalKey,
      map_foldSegment_eq_iff]

/-- Case, hyphens and underscores do not count, a dot more does. -/
example : canonicalKey "Virtual-Host..userName" = "virtualhost..username" ∧
    canonicalKey "virtual_host..USERNAME" = canonicalKey "Virtual-Host..userName" ∧
    canonicalKey "virtual.host..username" ≠ canonicalKey "Virtual-Host..userName" := by
  decide +kernel

end BrokerWiring.Property
