import FastSocket.Lpm.PrefixMap

/-!
# Longest-prefix matching by a linear scan

When the entries are ordered from long words to short ones, the first entry that
is a prefix of the key is the longest match.  Entries for one word may be
repeated: the first one counts, so the prefix map is the one that entering them
in reverse order gives.
-/

namespace FastSocket.Lpm

universe u v

variable {σ : Type u} {α : Type v} [DecidableEq σ]

/-- The value of the first entry whose word is a prefix of the key. -/
def firstMatch (entries : List (List σ × α)) (key : List σ) : Option α :=
  (entries.find? fun entry => entry.1 <+: key).map Prod.snd

theorem latest_reverse_eq_some {before after : List (List σ × α)} {entry : List σ × α}
    (earlier : ∀ other ∈ before, other.1 ≠ entry.1) :
    latest (before ++ entry :: after).reverse entry.1 = some entry.2 := by
  rw [latest_eq_some_iff]
  refine ⟨after.reverse, before.reverse, by simp, ?_⟩
  intro other member
  exact earlier other (List.mem_reverse.mp member)

/-- A linear scan over entries in order of decreasing word length finds the
longest match. -/
theorem longestMatch_latest_reverse {entries : List (List σ × α)}
    (ordered : entries.Pairwise fun first second => second.1.length ≤ first.1.length)
    (key : List σ) :
    longestMatch (latest entries.reverse) key = firstMatch entries key := by
  rw [firstMatch]
  cases found : entries.find? fun entry => entry.1 <+: key with
  | none =>
    rw [List.find?_eq_none] at found
    rw [Option.map_none, longestMatch_eq_none_iff]
    intro word isPrefix
    by_contra assigned
    rw [← ne_eq, ← Option.isSome_iff_ne_none, latest_isSome_iff] at assigned
    obtain ⟨entry, member, rfl⟩ := assigned
    exact found entry (List.mem_reverse.mp member) (by simpa using isPrefix)
  | some entry =>
    rw [List.find?_eq_some_iff_append] at found
    obtain ⟨isPrefix, before, after, rfl, skipped⟩ := found
    have isPrefix : entry.1 <+: key := by simpa using isPrefix
    have skipped : ∀ other ∈ before, ¬ other.1 <+: key := by simpa using skipped
    rw [Option.map_some, longestMatch_eq_some_iff]
    refine ⟨entry.1, isPrefix, ?_, ?_⟩
    · apply latest_reverse_eq_some
      intro other member same
      exact skipped other member (same ▸ isPrefix)
    · intro word wordPrefix assigned
      obtain ⟨other, member, rfl⟩ := (latest_isSome_iff _ _).mp assigned
      rw [List.mem_reverse, List.mem_append, List.mem_cons] at member
      rcases member with member | rfl | member
      · exact absurd wordPrefix (skipped other member)
      · exact Nat.le_refl _
      · exact (List.pairwise_cons.mp (List.pairwise_append.mp ordered).2.1).1 other member

end FastSocket.Lpm
