import PasswordSeal.CommandLine.Run
import PasswordSeal.Proofs.Alphabet.Shape
import PasswordSeal.Proofs.Bytes.Hex
import PasswordSeal.Proofs.Cipher.Bind

/-!
# What is printed of a sealed secret

Both ways to print put a separator behind each text: the end of a line, or a quotation mark. None of
the texts that encryption finds has a separator in it, so they are found again in what was printed,
and no other texts can be found there.
-/
namespace PasswordSeal.CommandLine

/-! ## Texts between separators -/

def framed (separator : Char) (parts : List (List Char × List Char)) : List Char :=
  parts.flatMap fun (text, words) => text ++ separator :: words

section
variable {c : Char} {parts parts' : List (List Char × List Char)}

theorem framed_cons (text words : List Char) :
    framed c ((text, words) :: parts) = text ++ c :: (words ++ framed c parts) := by
  simp [framed]

theorem append_cons_inj {x y r s : List Char} (hx : c ∉ x) (hy : c ∉ y)
    (h : x ++ c :: r = y ++ c :: s) : x = y ∧ r = s := by
  induction x generalizing y with
  | nil =>
    cases y with
    | nil => exact ⟨rfl, (List.cons.inj h).2⟩
    | cons b y => exact absurd (by simp [(List.cons.inj h).1]) hy
  | cons a x ih =>
    cases y with
    | nil => exact absurd (by simp [(List.cons.inj h).1]) hx
    | cons b y =>
      obtain ⟨rfl, htail⟩ := List.cons.inj h
      obtain ⟨rfl, hrest⟩ := ih (fun hm => hx (by simp [hm])) (fun hm => hy (by simp [hm])) htail
      exact ⟨rfl, hrest⟩

theorem count_framed : (framed c parts).count c =
    (parts.flatMap Prod.fst).count c + ((parts.map Prod.snd).flatMap (c :: ·)).count c := by
  induction parts with
  | nil => rfl
  | cons p parts ih =>
    rw [framed_cons, List.count_append, List.count_cons_self, List.count_append, ih]
    simp only [List.map_cons, List.flatMap_cons, List.count_append, List.count_cons_self]
    omega

theorem framed_injective_of_notMem (hwords : parts.map Prod.snd = parts'.map Prod.snd)
    (hp : ∀ p ∈ parts, c ∉ p.1) (hp' : ∀ p ∈ parts', c ∉ p.1)
    (h : framed c parts = framed c parts') : parts = parts' := by
  induction parts generalizing parts' with
  | nil => exact (List.map_eq_nil_iff.1 hwords.symm).symm
  | cons p parts ih =>
    match parts' with
    | [] => cases hwords
    | q :: parts' =>
      obtain ⟨text, words⟩ := p
      obtain ⟨text', words'⟩ := q
      obtain ⟨hw, htail⟩ := List.cons.inj hwords
      obtain rfl : words = words' := hw
      have htext : c ∉ text := hp (text, words) (by simp)
      have htext' : c ∉ text' := hp' (text', words) (by simp)
      rw [framed_cons, framed_cons] at h
      obtain ⟨rfl, hrest⟩ := append_cons_inj htext htext' h
      rw [ih htail (fun p hm => hp p (by simp [hm])) (fun p hm => hp' p (by simp [hm]))
        (List.append_cancel_left hrest)]

/-- If the texts on one side have no separator in them, then neither have those on the other side,
as there are equally many separators on both. -/
theorem framed_injective (hwords : parts.map Prod.snd = parts'.map Prod.snd)
    (hp' : ∀ p ∈ parts', c ∉ p.1) (h : framed c parts = framed c parts') : parts = parts' := by
  have hcount := congrArg (List.count c) h
  rw [count_framed, count_framed, hwords] at hcount
  have hzero : (parts'.flatMap Prod.fst).count c = 0 := by
    rw [List.count_eq_zero, List.mem_flatMap]
    rintro ⟨p, hp, hc⟩
    exact hp' p hp hc
  have hnone : (parts.flatMap Prod.fst).count c = 0 := by omega
  refine framed_injective_of_notMem hwords ?_ hp' h
  intro p hp hc
  exact List.count_eq_zero.1 hnone (List.mem_flatMap.2 ⟨p, hp, hc⟩)

end

/-! ## Sealed secrets -/

def separator (json : Bool) : Char :=
  if json then '"' else '\n'

def Plain (text : String) : Prop :=
  ∀ json, separator json ∉ text.toList

namespace Sealed

def print (s : Sealed) (json : Bool) : String :=
  if json then s.json else s.lines

def heading (json : Bool) : String :=
  if json then "\x7b\n  \"ciphertext\": \"" else "Ciphertext: "

def words (json : Bool) : List String :=
  if json then [",\n  \"iv\": \"", ",\n  \"algorithm\": \"", ",\n  \"params\": \"", "\n\x7d\n"]
  else ["IV:         ", "Algorithm:  ", "Params:     ", ""]

def texts (s : Sealed) (iv : String) : List String :=
  [s.text, iv, s.algorithm, s.parameters]

def parts (s : Sealed) (iv : String) (json : Bool) : List (List Char × List Char) :=
  (s.texts iv).zipWith (fun text words => (text.toList, words.toList)) (words json)

theorem map_fst_parts (s : Sealed) (iv : String) (json : Bool) :
    (s.parts iv json).map Prod.fst = (s.texts iv).map String.toList := by
  cases json <;> rfl

theorem map_snd_parts (s : Sealed) (iv : String) (json : Bool) :
    (s.parts iv json).map Prod.snd = (words json).map String.toList := by
  cases json <;> rfl

theorem toList_lines {s : Sealed} {iv : String} (h : s.iv = some iv) :
    s.lines.toList =
      (heading false).toList ++ framed (separator false) (s.parts iv false) := by
  have hiv : "\nIV:         ".toList = '\n' :: "IV:         ".toList := by rfl
  have halgorithm : "\nAlgorithm:  ".toList = '\n' :: "Algorithm:  ".toList := by rfl
  have hparams : "\nParams:     ".toList = '\n' :: "Params:     ".toList := by rfl
  have hend : "\n".toList = '\n' :: "".toList := by rfl
  have hlines : s.lines = "Ciphertext: " ++ s.text ++ "\nIV:         " ++ iv ++
      "\nAlgorithm:  " ++ s.algorithm ++ "\nParams:     " ++ s.parameters ++ "\n" := by
    unfold lines
    rw [h]
    rfl
  rw [hlines]
  simp only [String.toList_append, hiv, halgorithm, hparams, hend, framed, parts, texts, words,
    heading, separator, if_neg Bool.false_ne_true, List.zipWith_cons_cons, List.zipWith_nil_left,
    List.flatMap_cons, List.flatMap_nil, List.append_assoc, List.cons_append, List.append_nil]

theorem toList_json {s : Sealed} {iv : String} (h : s.iv = some iv) :
    s.json.toList =
      (heading true).toList ++ framed (separator true) (s.parts iv true) := by
  have hquote : "\"".toList = ['"'] := by rfl
  have hheading : "\x7b\n  \"ciphertext\": \"".toList =
      "\x7b\n  \"ciphertext\": ".toList ++ ['"'] := by rfl
  have hiv : ",\n  \"iv\": \"".toList = ",\n  \"iv\": ".toList ++ ['"'] := by rfl
  have halgorithm : ",\n  \"algorithm\": \"".toList = ",\n  \"algorithm\": ".toList ++ ['"'] := by
    rfl
  have hparams : ",\n  \"params\": \"".toList = ",\n  \"params\": ".toList ++ ['"'] := by rfl
  have hjson : s.json = "\x7b\n  \"ciphertext\": " ++ ("\"" ++ s.text ++ "\"") ++
      ",\n  \"iv\": " ++ ("\"" ++ iv ++ "\"") ++ ",\n  \"algorithm\": " ++
      ("\"" ++ s.algorithm ++ "\"") ++ ",\n  \"params\": " ++
      ("\"" ++ s.parameters ++ "\"") ++ "\n\x7d\n" := by
    unfold json
    rw [h]
    rfl
  rw [hjson]
  simp only [String.toList_append, hquote, hheading, hiv, halgorithm, hparams, framed, parts, texts,
    words, heading, separator, if_true, List.zipWith_cons_cons, List.zipWith_nil_left,
    List.flatMap_cons, List.flatMap_nil, List.append_assoc, List.cons_append, List.nil_append,
    List.append_nil]

theorem toList_print {s : Sealed} {iv : String} (h : s.iv = some iv) (json : Bool) :
    (s.print json).toList =
      (heading json).toList ++ framed (separator json) (s.parts iv json) := by
  cases json with
  | false => exact toList_lines h
  | true => exact toList_json h

/-- Whatever texts are seen in what was printed of plain texts, they are these texts. -/
theorem print_injective {s t : Sealed} {json : Bool} {iv iv' : String} (hs : s.iv = some iv)
    (ht : t.iv = some iv') (hplain : ∀ text ∈ t.texts iv', Plain text)
    (h : s.print json = t.print json) : s = t := by
  have hlist := congrArg String.toList h
  rw [toList_print hs, toList_print ht] at hlist
  have hnone : ∀ p ∈ t.parts iv' json, separator json ∉ p.1 := by
    intro p hp
    have hmem : p.1 ∈ (t.texts iv').map String.toList := by
      rw [← map_fst_parts t iv' json]
      exact List.mem_map_of_mem hp
    obtain ⟨text, htext, heq⟩ := List.mem_map.1 hmem
    rw [← heq]
    exact hplain text htext json
  have hparts := framed_injective
    ((map_snd_parts s iv json).trans (map_snd_parts t iv' json).symm) hnone
    (List.append_cancel_left hlist)
  have htexts := congrArg (List.map Prod.fst) hparts
  rw [map_fst_parts, map_fst_parts, List.map_inj_right fun _ _ => String.toList_inj.1] at htexts
  obtain ⟨text, given, algorithm, parameters⟩ := s
  obtain ⟨text', given', algorithm', parameters'⟩ := t
  obtain rfl : given = some iv := hs
  obtain rfl : given' = some iv' := ht
  simp only [texts, List.cons.injEq, and_true] at htexts
  obtain ⟨rfl, rfl, rfl, rfl⟩ := htexts
  rfl

end Sealed

/-! ## Plain texts -/

theorem plain_encode (a : Alphabet) (bytes : Bytes) : Plain (a.encode bytes) := by
  have hsymbols : ∀ json, separator json ∉ a.symbols.toList ∧ separator json ≠ '=' := by
    rw [Alphabet.symbols_toList]
    cases a <;> decide
  intro json hmem
  rcases Alphabet.mem_encode hmem with h | h
  · exact (hsymbols json).1 h
  · exact (hsymbols json).2 h

theorem plain_hex (bytes : Bytes) : Plain (Hex.encode bytes) := by
  have hdigits : ∀ json, separator json ∉ "0123456789abcdef".toList := by decide
  intro json hmem
  exact hdigits json (Hex.mem_encode hmem)

instance decidablePlain (text : String) : Decidable (Plain text) :=
  inferInstanceAs (Decidable (∀ json, separator json ∉ text.toList))

theorem Plain.append {x y : String} (hx : Plain x) (hy : Plain y) : Plain (x ++ y) := by
  intro json hmem
  rw [String.toList_append] at hmem
  rcases List.mem_append.1 hmem with h | h
  · exact hx json h
  · exact hy json h

theorem plain_name {s : Scheme} (h : s.Keyed) : Plain s.name := by
  have hstem : Plain Scheme.stem := by decide
  have hlabel : Plain s.digest.label := by cases s.digest <;> decide
  have hjoint : Plain Scheme.joint := by decide
  have hsize : Plain (toString (s.keyBytes * 8)) := by
    rcases h with h | h <;> rw [h] <;> decide
  have hending : Plain s.mode.ending := by cases s.mode <;> decide
  exact (((hstem.append hlabel).append hjoint).append hsize).append hending

end PasswordSeal.CommandLine
