import WindowChrome.Button.Kind

/-! # Layouts and their words -/

namespace WindowChrome
namespace Button

def letters : List Char :=
  ['M', 'N', 'S', 'H', 'I', 'A', 'X', 'F', 'B', 'L']

namespace Kind

theorem letters_eq : letters = all.map letter := rfl

theorem letter_mem (kind : Kind) : kind.letter ∈ letters := by
  cases kind <;> simp [letters, letter]

theorem ofLetter?_letter (kind : Kind) : ofLetter? kind.letter = some kind := by
  cases kind <;> rfl

theorem letter_of_ofLetter? {c : Char} {kind : Kind}
    (hkind : ofLetter? c = some kind) : kind.letter = c := by
  unfold ofLetter? at hkind
  simpa using List.find?_some hkind

theorem ofLetter?_eq_none_iff {c : Char} :
    ofLetter? c = none ↔ c ∉ letters := by
  simp [ofLetter?, letters_eq]

end Kind

theorem toList_encode (kinds : List Kind) :
    (encode kinds).toList = kinds.map Kind.letter := by
  simp only [encode, String.toList_ofList]

theorem decode_encode (kinds : List Kind) : decode (encode kinds) = kinds := by
  unfold decode
  rw [toList_encode]
  induction kinds with
  | nil => rfl
  | cons kind rest ih =>
      rw [List.map_cons, List.filterMap_cons_some (Kind.ofLetter?_letter kind),
        ih]

theorem decode_append (word other : String) :
    decode (word ++ other) = decode word ++ decode other := by
  simp only [decode, String.toList_append, List.filterMap_append]

theorem map_letter_decode (word : String) :
    (decode word).map Kind.letter = word.toList.filter (· ∈ letters) := by
  unfold decode
  induction word.toList with
  | nil => rfl
  | cons c rest ih =>
      cases hkind : Kind.ofLetter? c with
      | none =>
          have hc : c ∉ letters := Kind.ofLetter?_eq_none_iff.mp hkind
          rw [List.filterMap_cons_none hkind, ih]
          simp [hc]
      | some kind =>
          have hletter := Kind.letter_of_ofLetter? hkind
          have hc : c ∈ letters := by
            rw [← hletter]
            exact kind.letter_mem
          rw [List.filterMap_cons_some hkind, List.map_cons, ih, hletter]
          simp [hc]

theorem encode_decode (word : String) :
    encode (decode word) = String.ofList (word.toList.filter (· ∈ letters)) := by
  rw [encode, map_letter_decode]

theorem decode_eq_nil_of_not_mem {word : String}
    (hword : ∀ c ∈ word.toList, c ∉ letters) : decode word = [] := by
  unfold decode
  rw [List.filterMap_eq_nil_iff]
  intro c hc
  exact Kind.ofLetter?_eq_none_iff.mpr (hword c hc)

theorem decode_eq_decode_iff {word other : String} :
    decode word = decode other ↔
      word.toList.filter (· ∈ letters) = other.toList.filter (· ∈ letters) := by
  constructor
  · intro hsame
    rw [← map_letter_decode, ← map_letter_decode, hsame]
  · intro hsame
    rw [← decode_encode (decode word), ← decode_encode (decode other),
      encode_decode, encode_decode, hsame]

/-- A layout is read back from its word, a word is written again without the
characters that are no letters, and it means what its parts mean, one after the
other. -/
theorem layout_words :
    (∀ kinds, decode (encode kinds) = kinds) ∧
    (∀ word, encode (decode word) =
      String.ofList (word.toList.filter (· ∈ letters))) ∧
    (∀ word, encode (decode (encode (decode word))) = encode (decode word)) ∧
    (∀ word other, decode (word ++ other) = decode word ++ decode other) ∧
    (∀ before between after : String, (∀ c ∈ between.toList, c ∉ letters) →
      decode (before ++ between ++ after) = decode (before ++ after)) ∧
    ∀ word other, decode word = decode other ↔
      word.toList.filter (· ∈ letters) = other.toList.filter (· ∈ letters) := by
  refine ⟨decode_encode, encode_decode, ?_, decode_append, ?_,
    fun _ _ => decode_eq_decode_iff⟩
  · intro word
    rw [decode_encode]
  · intro before between after hbetween
    rw [decode_append, decode_append, decode_append,
      decode_eq_nil_of_not_mem hbetween, List.append_nil]

theorem layout_words_with_noise :
    (∀ c ∈ "_é?z".toList, c ∉ letters) ∧
    decode ("M" ++ "_é?z" ++ "SX") = [.menu, .onAllDesktops, .close] := by
  have hnoise : ∀ c ∈ "_é?z".toList, c ∉ letters := by
    simp [letters]
  refine ⟨hnoise, ?_⟩
  rw [layout_words.2.2.2.2.1 "M" "_é?z" "SX" hnoise]
  decide

end Button
end WindowChrome
