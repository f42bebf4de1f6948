import PasswordSeal.Proofs.Parameters.Layout

/-!
# Where a blob ends

A reader takes bytes from the front, and those it has taken decide how many more it takes. So it
finds the same whatever stands behind its bytes, and runs out of them wherever they are cut: a step
that is behind the cut never comes, those in front of it go as before, and the one at the cut misses
bytes. The readers of the fields follow one another in this way, down to single bytes.

No blob begins another, therefore. One that was cut is refused because it ends early, and one that
was continued because bytes are left over, so neither is read as other parameters.
-/
namespace PasswordSeal
namespace Blob

def Flaw.Early (flaw : Flaw) : Prop :=
  flaw = .endOfText ∨ flaw = .endOfInput

section
variable {α β : Type} {bytes more : Bytes}

def RunsOut (outcome : Except Flaw α) : Prop :=
  ∃ flaw, flaw.Early ∧ outcome = .error flaw

/-- Wherever the bytes are cut, the reader runs out of them. -/
def NeedsAll (reader : Bytes → Except Flaw α) (bytes : Bytes) : Prop :=
  ∀ before behind, bytes = before ++ behind → behind ≠ [] → RunsOut (reader before)

/-! ## One step after another -/

theorem needsAll_nil (reader : Bytes → Except Flaw α) : NeedsAll reader [] :=
  fun _ _ heq hbehind => absurd (List.append_eq_nil_iff.1 heq.symm).2 hbehind

theorem NeedsAll.cons {reader : Bytes → Except Flaw α} {b : UInt8} (hnil : RunsOut (reader []))
    (h : NeedsAll (fun taken => reader (b :: taken)) bytes) : NeedsAll reader (b :: bytes) := by
  intro before behind heq hbehind
  cases before with
  | nil => exact hnil
  | cons first taken =>
    obtain ⟨rfl, hbytes⟩ := List.cons.inj heq
    exact h taken behind hbytes hbehind

theorem RunsOut.of_fails {outcome : Except Flaw α} {whole : Except Flaw β} (h : RunsOut outcome)
    (hfails : ∀ flaw, outcome = .error flaw → whole = .error flaw) : RunsOut whole := by
  obtain ⟨flaw, hearly, houtcome⟩ := h
  exact ⟨flaw, hearly, hfails flaw houtcome⟩

theorem NeedsAll.of_fails {first : Bytes → Except Flaw α} {reader : Bytes → Except Flaw β}
    (h : NeedsAll first bytes)
    (hfails : ∀ taken flaw, first taken = .error flaw → reader taken = .error flaw) :
    NeedsAll reader bytes :=
  fun before behind heq hbehind => (h before behind heq hbehind).of_fails (hfails before)

theorem NeedsAll.append {first : Bytes → Except Flaw α} {reader next : Bytes → Except Flaw β}
    (h : NeedsAll first bytes)
    (hfails : ∀ taken flaw, first taken = .error flaw → reader taken = .error flaw)
    (hgoes : ∀ rest, reader (bytes ++ rest) = next rest) (hnext : NeedsAll next more) :
    NeedsAll reader (bytes ++ more) := by
  intro before behind heq hbehind
  -- A cut right behind the first step leaves that step done, and the next one with nothing.
  by_cases hdone : bytes <+: before
  · obtain ⟨taken, rfl⟩ := hdone
    rw [List.append_assoc] at heq
    rw [hgoes]
    exact hnext taken behind (List.append_cancel_left heq) hbehind
  · rcases List.append_eq_append_iff.1 heq with ⟨taken, hbefore, -⟩ | ⟨missing, hbytes, -⟩
    · exact absurd ⟨taken, hbefore.symm⟩ hdone
    · have hmissing : missing ≠ [] := by
        rintro rfl
        exact hdone ⟨[], by rw [hbytes, List.append_nil, List.append_nil]⟩
      exact (h before missing hbytes hmissing).of_fails (hfails before)

theorem NeedsAll.bind {first : Bytes → Except Flaw (α × Bytes)}
    {next : α × Bytes → Except Flaw β} {found : α} (h : NeedsAll first bytes)
    (hfound : ∀ rest, first (bytes ++ rest) = .ok (found, rest))
    (hnext : NeedsAll (fun rest => next (found, rest)) more) :
    NeedsAll (fun taken => first taken >>= next) (bytes ++ more) := by
  refine h.append ?_ ?_ hnext
  · intro taken flaw hread
    rw [hread, error_bind]
  · intro rest
    rw [hfound, ok_bind]

end

/-! ## Numbers and fields -/

theorem needsAll_readExactly {short : Flaw} (hshort : short.Early) {count : Nat} {bytes : Bytes}
    (h : bytes.length = count) : NeedsAll (readExactly short count) bytes := by
  rintro before behind rfl hbehind
  have hpos := List.length_pos_iff.2 hbehind
  rw [List.length_append] at h
  exact ⟨short, hshort, if_neg (by omega)⟩

theorem needsAll_readLowestFirst (count n : Nat) :
    NeedsAll (readLowestFirst count) (lowestFirst count n) := by
  refine (needsAll_readExactly (.inr rfl) (length_lowestFirst count n)).of_fails ?_
  intro taken flaw hread
  rw [readLowestFirst, hread]

theorem needsAll_readNumber (n : Written) : NeedsAll readNumber n.bytes := by
  have hnil : RunsOut (readNumber []) := ⟨.endOfInput, .inr rfl, rfl⟩
  obtain ⟨width, value, hlt⟩ := n
  cases width with
  | one =>
    obtain ⟨b, hb⟩ := List.length_eq_one_iff.1 (length_lowestFirst 1 value)
    rw [Written.bytes, Width.marker, Width.digits, hb]
    exact .cons hnil (needsAll_nil _)
  | two => exact .cons hnil (needsAll_readLowestFirst 2 value)
  | four => exact .cons hnil (needsAll_readLowestFirst 4 value)
  | eight => exact .cons hnil (needsAll_readLowestFirst 8 value)

theorem needsAll_readBytes {short : Flaw} (hshort : short.Early) (c : Counted) :
    NeedsAll (readBytes short) c.bytes := by
  refine (needsAll_readNumber c.count).append ?_ ?_ (needsAll_readExactly hshort c.count_value.symm)
  · intro taken flaw hread
    rw [readBytes, hread]
  · intro rest
    rw [readBytes, readNumber_written]

theorem needsAll_readText (c : Counted) : NeedsAll readText c.bytes := by
  refine (needsAll_readBytes (.inl rfl) c).of_fails ?_
  intro taken flaw hread
  rw [readText, hread]

theorem needsAll_readCount (n : Written) : NeedsAll readCount n.bytes := by
  refine (needsAll_readNumber n).of_fails ?_
  intro taken flaw hread
  rw [readCount, hread]

theorem needsAll_readIv (c : Option Counted) : NeedsAll readIv (ivBytes c) := by
  have hnil : RunsOut (readIv []) := ⟨.endOfInput, .inr rfl, rfl⟩
  cases c with
  | none => exact .cons hnil (needsAll_nil _)
  | some c =>
    refine .cons hnil ((needsAll_readBytes (.inr rfl) c).of_fails ?_)
    intro taken flaw hread
    rw [readIv, if_neg (by decide), if_pos rfl, hread]

/-! ## Whole blobs -/

namespace Layout
variable {l : Layout} {p : Parameters} (h : l.Holds p)
include h

theorem Holds.needsAll_readFields : NeedsAll readFields l.bytes := by
  have halgorithm : ∀ rest, readText (l.algorithm.bytes ++ rest) = .ok (p.algorithm, rest) :=
    fun rest => readText_eq_ok.2 ⟨l.algorithm, h.algorithm, rfl⟩
  have hsalt : ∀ rest,
      readBytes .endOfInput (l.salt.bytes ++ rest) = .ok (l.salt.content, rest) :=
    fun rest => readBytes_eq_ok.2 ⟨l.salt, rfl, rfl⟩
  have hiterations : ∀ rest, readCount (l.iterations.bytes ++ rest) = .ok (p.iterations, rest) :=
    fun rest => readCount_eq_ok.2 ⟨l.iterations, h.iterations, rfl⟩
  refine (needsAll_readText l.algorithm).bind halgorithm ?_
  refine (needsAll_readBytes (.inr rfl) l.salt).bind hsalt ?_
  refine (needsAll_readCount l.iterations).bind hiterations ?_
  refine (needsAll_readIv l.iv).of_fails ?_
  intro taken flaw hread
  dsimp only
  rw [hread, error_bind]

theorem Holds.needsAll_read : NeedsAll read l.bytes := by
  refine h.needsAll_readFields.of_fails ?_
  intro taken flaw hread
  rw [read, hread]

theorem Holds.read_append {behind : Bytes} (hbehind : behind ≠ []) :
    read (l.bytes ++ behind) = .error .bytesLeftOver := by
  have hfields : readFields (l.bytes ++ behind) = .ok (p, behind) :=
    readFields_eq_ok.2 ⟨l, h, rfl⟩
  cases behind with
  | nil => exact absurd rfl hbehind
  | cons b behind => rw [read, hfields]

end Layout
end Blob

namespace Parameters
variable {p : Parameters} {blob : Bytes}

/-- A blob shows by itself where it ends. When it was cut it is refused because it ends early, and
when it was continued because bytes are left over. -/
theorem ofBlob_self_delimiting (h : ofBlob blob = .ok p) :
    (∀ cut, cut <+: blob → cut ≠ blob →
        ∃ flaw : Blob.Flaw, flaw.Early ∧ ofBlob cut = .error (.blob flaw)) ∧
      ∀ longer, blob <+: longer → longer ≠ blob →
        ofBlob longer = .error (.blob .bytesLeftOver) := by
  obtain ⟨l, hl, rfl⟩ := ofBlob_eq_ok.1 h
  constructor
  · rintro cut ⟨missing, hcut⟩ hne
    have hmissing : missing ≠ [] := by
      rintro rfl
      exact hne (by rw [← hcut, List.append_nil])
    obtain ⟨flaw, hearly, hread⟩ := hl.needsAll_read cut missing hcut.symm hmissing
    exact ⟨flaw, hearly, mapError_eq_error.2 ⟨flaw, hread, rfl⟩⟩
  · rintro longer ⟨behind, rfl⟩ hne
    have hbehind : behind ≠ [] := by
      rintro rfl
      exact hne (List.append_nil _)
    exact mapError_eq_error.2 ⟨.bytesLeftOver, hl.read_append hbehind, rfl⟩

def Sample.spacious : Blob.Layout where
  algorithm := ⟨⟨.two, 1, by decide⟩, [120], rfl⟩
  salt := ⟨⟨.one, 1, by decide⟩, [7], rfl⟩
  iterations := ⟨.four, 2, by decide⟩
  iv := some ⟨⟨.two, 2, by decide⟩, [8, 9], rfl⟩

theorem Sample.holds_spacious : spacious.Holds ⟨⟨[7], 2, some [8, 9]⟩, "x"⟩ where
  algorithm := by decide
  salt := rfl
  iterations := rfl
  iv := rfl

theorem ofBlob_self_delimiting_spacious :
    Sample.spacious.bytes = [251, 1, 0, 120, 1, 7, 252, 2, 0, 0, 0, 1, 251, 2, 0, 8, 9] ∧
      ofBlob Sample.spacious.bytes = .ok ⟨⟨[7], 2, some [8, 9]⟩, "x"⟩ ∧
      (∀ count ∈ [8, 12], ∃ flaw : Blob.Flaw, flaw.Early ∧
        ofBlob (Sample.spacious.bytes.take count) = .error (.blob flaw)) ∧
      ofBlob (Sample.spacious.bytes ++ [0]) = .error (.blob .bytesLeftOver) := by
  have hread := ofBlob_eq_ok.2 ⟨Sample.spacious, Sample.holds_spacious, rfl⟩
  obtain ⟨hcut, hlonger⟩ := ofBlob_self_delimiting hread
  have hne : ∀ count ∈ [8, 12], Sample.spacious.bytes.take count ≠ Sample.spacious.bytes := by
    decide
  refine ⟨by decide, hread, ?_, ?_⟩
  · intro count hcount
    exact hcut _ (List.take_prefix count _) (hne count hcount)
  · exact hlonger _ (List.prefix_append _ _) (by decide)

end Parameters
end PasswordSeal
