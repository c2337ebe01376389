import PublicFunds.Proofs.Text.Utf8
import PublicFunds.Register.Layout

/-!
# Pairs have places of their own

Scorecards and delegations are unique under a pair of names.  What the store sees of a pair is a
byte string, and names may hold any characters, also such as look like the length of what follows.
So it has to be said why different pairs are never stored under one key.

Each part of a pair has its length in front of it, in four bytes.  Whoever reads a pair from the
front knows from these bytes alone where a part ends, whatever is in it and whatever comes after it.
Hence a pair is not even stored as the beginning of another one.  Four bytes are enough for the
length if parts are no longer than that.

* `PairKey.eq_of_part_append_eq`: a part is told apart from what follows it.
* `PairKey.Short`, `PairKey.eq_of_isPrefix`: short pairs of which one is stored as the beginning of
  the other are the same.
* `PairKey.isPrefix_iff`: the same of their keys in a store.
-/

namespace PublicFunds

theorem NameKey.eq_of_bytes_eq {k l : NameKey} (h : k.bytes = l.bytes) : k = l := by
  have texts := congrArg Utf8.text h
  rw [bytes, bytes, Utf8.text_bytes, Utf8.text_bytes] at texts
  cases k
  cases l
  cases texts
  rfl

namespace PairKey

/-- A part whose length fits in four bytes is told apart from what follows it. -/
theorem eq_of_part_append_eq {k l : NameKey} {r s : Bytes}
    (hk : k.bytes.length < Bytes.reach 4) (hl : l.bytes.length < Bytes.reach 4)
    (h : part k ++ r = part l ++ s) : k = l ∧ r = s := by
  rw [part, part, List.append_assoc, List.append_assoc] at h
  obtain ⟨digits, rest⟩ := List.append_inj h (by simp)
  have lengths := congrArg Bytes.ofBig digits
  rw [Bytes.ofBig_big, Bytes.ofBig_big, Nat.mod_eq_of_lt hk, Nat.mod_eq_of_lt hl] at lengths
  obtain ⟨same, tail⟩ := List.append_inj rest lengths
  exact ⟨NameKey.eq_of_bytes_eq same, tail⟩

/-- The parts of a pair are not too long for four bytes to say how long they are. -/
def Short (p : PairKey) : Prop :=
  p.primary.bytes.length < Bytes.reach 4 ∧ p.secondary.bytes.length < Bytes.reach 4

instance (p : PairKey) : Decidable p.Short := instDecidableAnd

/-- A pair whose key is short has short parts. -/
theorem short_of_length {region : UInt8} {p : PairKey}
    (h : (Layout.pairKey region p).length < Bytes.reach 4) : p.Short := by
  simp only [Layout.pairKey, bytes, part, List.length_cons, List.length_append,
    Bytes.length_big] at h
  exact ⟨by omega, by omega⟩

/-- **Pairs of which one is stored as the beginning of the other are the same**, if they are not too
long. -/
theorem eq_of_isPrefix {p q : PairKey} (hp : p.Short) (hq : q.Short) (h : p.bytes <+: q.bytes) :
    p = q := by
  obtain ⟨rest, split⟩ := h
  rw [bytes, bytes, List.append_assoc] at split
  obtain ⟨primary, behind⟩ := eq_of_part_append_eq hp.1 hq.1 split
  rw [← List.append_nil (part q.secondary)] at behind
  have secondary := (eq_of_part_append_eq hp.2 hq.2 behind).1
  cases p
  cases q
  cases primary
  cases secondary
  rfl

/-- Pairs that are stored alike are the same, if they are not too long. -/
theorem eq_of_bytes_eq {p q : PairKey} (hp : p.Short) (hq : q.Short) (h : p.bytes = q.bytes) :
    p = q :=
  eq_of_isPrefix hp hq (h ▸ List.prefix_rfl)

/-- **Only a pair itself begins like it.**  The bytes of one short pair begin with those of another
exactly if the two are the same; and the key of one in a store begins with the key of another
exactly if they are the same and in one region.  So different pairs never have one key. -/
theorem isPrefix_iff {p q : PairKey} (hp : p.Short) (hq : q.Short) :
    (p.bytes <+: q.bytes ↔ p = q) ∧
      ∀ region region' : UInt8,
        (Layout.pairKey region p <+: Layout.pairKey region' q ↔ region = region' ∧ p = q) ∧
          (Layout.pairKey region p = Layout.pairKey region' q ↔ region = region' ∧ p = q) := by
  have pairs : p.bytes <+: q.bytes ↔ p = q :=
    ⟨eq_of_isPrefix hp hq, fun same => same ▸ List.prefix_rfl⟩
  refine ⟨pairs, fun region region' => ⟨?_, ?_⟩⟩
  · rw [Layout.pairKey, Layout.pairKey, List.cons_prefix_cons, pairs]
  · rw [Layout.pairKey, Layout.pairKey, List.cons.injEq]
    refine and_congr_right fun _ => ⟨eq_of_bytes_eq hp hq, fun same => same ▸ rfl⟩

/-- A part that holds what looks like the border between two parts is still one part. -/
theorem not_isPrefix_border :
    let p : PairKey := ⟨⟨"a"⟩, ⟨"b"⟩⟩
    let q : PairKey := ⟨⟨"a\x00\x00\x00\x01b"⟩, ⟨""⟩⟩
    p.Short ∧ q.Short ∧ ¬p.bytes <+: q.bytes ∧ ¬q.bytes <+: p.bytes ∧
      ∀ region, Layout.pairKey region p ≠ Layout.pairKey region q := by
  intro p q
  have hp : p.Short := by decide
  have hq : q.Short := by decide
  have apart : p ≠ q := by decide
  refine ⟨hp, hq, fun h => apart ((isPrefix_iff hp hq).1.1 h),
    fun h => apart ((isPrefix_iff hq hp).1.1 h).symm, fun region same => ?_⟩
  exact apart (((isPrefix_iff hp hq).2 region region).2.1 same).2

end PairKey

end PublicFunds
