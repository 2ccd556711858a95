import Dicer.Token.Handler

namespace Dicer.Token

/-!
# How a token is written

A token is written in one way only, but for one that ends in a separator: what stands behind it is
an empty fingerprint, which is not told from none.
-/

def hexDigits : List Char := "0123456789abcdef".toList

def encodeHex (bytes : List UInt8) : List Char :=
  bytes.flatMap fun b => [hexDigits.getD (b.toNat / 16) '0', hexDigits.getD (b.toNat % 16) '0']

/-- A fingerprint is the SHA-256 of a key, written in hexadecimal. -/
def IsSum (fingerprint : String) : Prop := ∃ sum : List UInt8, sum.length = 32 ∧
    fingerprint.toList = encodeHex sum

theorem hexDigits_lower : ∀ n < 16, isHexDigit (hexDigits.getD n '0') = true ∧
    (!('A' ≤ hexDigits.getD n '0' && hexDigits.getD n '0' ≤ 'F')) = true := by
  decide +kernel

theorem isFingerprint_encodeHex {sum : List UInt8} (length : sum.length = 32) :
    isFingerprint (encodeHex sum) = true := by
  have digits : ∀ c ∈ encodeHex sum, isHexDigit c = true ∧ (!('A' ≤ c && c ≤ 'F')) = true := by
    intro c member
    rcases List.mem_flatMap.mp member with ⟨b, _, isDigit⟩
    have small := b.toNat_lt
    rcases List.mem_pair.mp isDigit with rfl | rfl
    · exact hexDigits_lower _ (by omega)
    · exact hexDigits_lower _ (by omega)
  have twice : (encodeHex sum).length = 64 := by
    simp [encodeHex, List.length_flatMap, length]
  simp only [isFingerprint, twice, Bool.and_eq_true, List.all_eq_true]
  exact ⟨⟨rfl, fun c member => (digits c member).1⟩, fun c member => (digits c member).2⟩

variable {c : Char} {secret fingerprint text : String}

theorem le_iff_toNat {c d : Char} : c ≤ d ↔ c.toNat ≤ d.toNat := Iff.rfl

theorem isAlphanumeric_iff : Naming.isAlphanumeric c = true ↔
    (97 ≤ c.toNat ∧ c.toNat ≤ 122) ∨ (65 ≤ c.toNat ∧ c.toNat ≤ 90) ∨
    (48 ≤ c.toNat ∧ c.toNat ≤ 57) := by
  simp [Naming.isAlphanumeric, le_iff_toNat, or_assoc]

theorem alphanumeric_apart (isAlphanumeric : Naming.isAlphanumeric c = true) :
    isSpace c = false ∧ c ≠ '_' := by
  rw [isAlphanumeric_iff] at isAlphanumeric
  constructor
  · have notBlank : c ≠ ' ' := by
      rintro rfl
      simp at isAlphanumeric
    simp only [isSpace, le_iff_toNat, Bool.or_eq_false_iff, beq_eq_false_iff_ne,
      Bool.and_eq_false_iff, decide_eq_false_iff_not]
    simp [notBlank]
    omega
  · rintro rfl
    simp at isAlphanumeric

theorem alphanumeric_of_hex (isHex : isHexDigit c = true) : Naming.isAlphanumeric c = true := by
  simp only [isHexDigit, le_iff_toNat, Bool.or_eq_true, Bool.and_eq_true,
    decide_eq_true_eq] at isHex
  rw [isAlphanumeric_iff]
  simp at isHex
  omega

theorem validateSecret_eq_ok : validateSecret secret = .ok () ↔
    minSecretLength ≤ secret.utf8ByteSize ∧ ∀ c ∈ secret.toList, Naming.isAlphanumeric c =
    true := by
  unfold validateSecret
  rw [ite_throw_eq_ok, not_lt]
  refine and_congr_right fun _ => ?_
  cases found : secret.toList.find? (fun c => !Naming.isAlphanumeric c) with
  | none => simpa [List.find?_eq_none] using found
  | some c =>
    have bad := List.find?_some found
    have member := List.mem_of_find?_eq_some found
    simp only [throw_ne_ok, false_iff]
    intro good
    simp [good c member] at bad

theorem trimSpace_eq_self {text : List Char} (solid : ∀ c ∈ text, isSpace c = false) :
    trimSpace text = text := by
  have kept : ∀ text : List Char, (∀ c ∈ text, isSpace c = false) → text.dropWhile isSpace =
      text := by
    intro text solid
    cases text with
    | nil => rfl
    | cons c => exact List.dropWhile_cons_of_neg (by simp [solid c List.mem_cons_self])
  rw [trimSpace, kept text solid, kept text.reverse (by simpa using solid), List.reverse_reverse]

/-- What follows the secret. -/
def suffix (fingerprint : String) : List Char := if fingerprint = "" then []
    else '_' :: fingerprint.toList

theorem format_toList :
    (format secret fingerprint).toList = tokenPrefix.toList ++
    (secret.toList ++ suffix fingerprint) := by
  unfold format suffix
  split <;> simp [separator]

theorem parse_format (valid : validateSecret secret = .ok ())
    (isSum : fingerprint = "" ∨ IsSum fingerprint) :
    parse (format secret fingerprint) = .ok (secret, fingerprint) := by
  have letters := (validateSecret_eq_ok.mp valid).2
  have accepted : fingerprint = "" ∨ isFingerprint fingerprint.toList = true := by
    rcases isSum with none | ⟨sum, length, same⟩
    · exact .inl none
    · exact .inr (same ▸ isFingerprint_encodeHex length)
  have solid : ∀ c ∈ tokenPrefix.toList ++ (secret.toList ++ suffix fingerprint),
      isSpace c = false := by
    have none : tokenPrefix.toList.any isSpace = false := by decide +kernel
    have starts : ∀ c ∈ tokenPrefix.toList, isSpace c = false := by simpa using none
    have hex : ∀ c ∈ fingerprint.toList, isHexDigit c = true := by
      rcases accepted with rfl | isFingerprint
      · exact nofun
      · simp only [Token.isFingerprint, Bool.and_eq_true, List.all_eq_true] at isFingerprint
        exact isFingerprint.1.2
    intro c member
    rcases List.mem_append.mp member with isPrefix | member
    · exact starts c isPrefix
    rcases List.mem_append.mp member with isLetter | member
    · exact (alphanumeric_apart (letters c isLetter)).1
    unfold suffix at member
    split at member
    · exact nomatch member
    rcases List.mem_cons.mp member with rfl | isDigit
    · decide +kernel
    · exact (alphanumeric_apart (alphanumeric_of_hex (hex c isDigit))).1
  have names : ∀ c ∈ secret.toList, decide (c ≠ '_') = true :=
    fun c member => decide_eq_true (alphanumeric_apart (letters c member)).2
  have ends : (suffix fingerprint).takeWhile (· ≠ '_') = [] ∧
      ((suffix fingerprint).dropWhile (· ≠ '_')).drop 1 = fingerprint.toList := by
    unfold suffix
    split <;> simp_all
  unfold parse
  simp only [format_toList, trimSpace_eq_self solid, cutStart, List.isPrefixOf_iff_prefix.mpr
    (List.prefix_append _ _), if_true, List.drop_left, List.takeWhile_append_of_pos names,
    List.dropWhile_append_of_pos names, ends.1, ends.2,
    List.append_nil, String.ofList_toList, valid]
  rcases accepted with none | isFingerprint <;> simp_all

theorem cutStart_eq_some {start text rest : List Char} (cut : cutStart start text = some rest) :
    text = start ++ rest := by
  unfold cutStart at cut
  split at cut
  · rename_i starts
    rw [← Option.some.inj cut]
    exact List.prefix_iff_eq_append.mp (List.isPrefixOf_iff_prefix.mp starts) |>.symm
  · exact nomatch cut

/-- What a token is read as ends its writing in a letter or digit. -/
theorem format_getLast? (valid : validateSecret secret = .ok ())
    (accepted : fingerprint = "" ∨ isFingerprint fingerprint.toList = true) :
    (format secret fingerprint).toList.getLast? ≠ some '_' := by
  rcases validateSecret_eq_ok.mp valid with ⟨long, letters⟩
  have someSecret : secret.toList ≠ [] := by
    intro empty
    obtain rfl := String.toList_eq_nil_iff.mp empty
    exact absurd long (by decide)
  intro ends
  rw [format_toList, List.getLast?_append, List.getLast?_append, suffix] at ends
  split at ends
  · rw [List.getLast?_eq_some_getLast someSecret] at ends
    exact (alphanumeric_apart (letters _ (List.getLast_mem someSecret))).2 (by simpa using ends)
  · rename_i named
    have digits : ∀ c ∈ fingerprint.toList, isHexDigit c = true := by
      have hex := accepted.resolve_left named
      simp only [isFingerprint, Bool.and_eq_true, List.all_eq_true] at hex
      exact hex.1.2
    have someDigit : fingerprint.toList ≠ [] := mt String.toList_eq_nil_iff.mp named
    rw [List.getLast?_cons, List.getLast?_eq_some_getLast someDigit] at ends
    have apart := alphanumeric_apart (alphanumeric_of_hex (digits _ (List.getLast_mem someDigit)))
    exact apart.2 (by simpa using ends)

theorem parse_accepts (parsed : parse text = .ok (secret, fingerprint)) :
    validateSecret secret = .ok () ∧
      (fingerprint = "" ∨ isFingerprint fingerprint.toList = true) := by
  unfold parse at parsed
  split at parsed
  · exact absurd parsed throw_ne_ok
  rcases bind_eq_ok.mp parsed with ⟨_, valid, returned⟩
  split at returned
  · exact absurd (bind_eq_ok.mp returned) (by simp)
  rename_i accepted
  rcases Prod.mk.inj (pure_eq_ok.mp returned) with ⟨rfl, rfl⟩
  refine ⟨valid, ?_⟩
  simpa [String.ofList_eq_empty_iff, or_iff_not_imp_left] using accepted

theorem format_of_parse (parsed : parse text = .ok (secret, fingerprint))
    (whole : (trimSpace text.toList).getLast? ≠ some '_') :
    trimSpace text.toList = (format secret fingerprint).toList := by
  unfold parse at parsed
  split at parsed
  · exact absurd parsed throw_ne_ok
  rename_i rest cut
  rcases bind_eq_ok.mp parsed with ⟨_, _, returned⟩
  split at returned
  · exact absurd (bind_eq_ok.mp returned) (by simp)
  rcases Prod.mk.inj (pure_eq_ok.mp returned) with ⟨rfl, rfl⟩
  rw [format_toList, cutStart_eq_some cut, String.toList_ofList]
  rw [cutStart_eq_some cut] at whole
  refine congrArg (tokenPrefix.toList ++ ·) ?_
  have parts := List.takeWhile_append_dropWhile (p := fun c => decide (c ≠ '_')) (l := rest)
  have first := List.head?_dropWhile_not (fun c => decide (c ≠ '_')) rest
  cases behind : rest.dropWhile (fun c => decide (c ≠ '_')) with
  | nil =>
    rw [behind] at parts
    simpa [suffix] using parts.symm
  | cons c tail =>
    rw [behind] at parts first
    obtain rfl : c = '_' := of_not_not (of_decide_eq_false first)
    cases tail with
    | nil =>
      rw [← parts] at whole
      simp at whole
    | cons => simpa [suffix, String.ofList_eq_empty_iff] using parts.symm

/-- A valid secret with a fingerprint, or none, is read back from the token written for them.  A
text that is read as a secret and a fingerprint is the token written for them, with white space
around it, exactly if it does not end in a separator. -/
theorem token_written_once (text secret fingerprint : String) :
    (validateSecret secret = .ok () → fingerprint = "" ∨ IsSum fingerprint →
      parse (format secret fingerprint) = .ok (secret, fingerprint)) ∧
    (parse text = .ok (secret, fingerprint) →
      (trimSpace text.toList = (format secret fingerprint).toList ↔
        (trimSpace text.toList).getLast? ≠ some '_')) := by
  refine ⟨parse_format, fun parsed => ⟨fun same => ?_, format_of_parse parsed⟩⟩
  rw [same]
  exact format_getLast? (parse_accepts parsed).1 (parse_accepts parsed).2

/-- A token that would do as a secret. -/
def plainSecret : String := String.ofList (List.replicate 32 'a')

theorem plainSecret_valid : validateSecret plainSecret = .ok () := by decide +kernel

theorem token_written_once_plain : parse (format plainSecret "") = .ok (plainSecret, "") ∧
      trimSpace (format plainSecret "").toList = (format plainSecret "").toList := by
  have written := token_written_once (format plainSecret "") plainSecret ""
  have read := written.1 plainSecret_valid (.inl rfl)
  exact ⟨read, (written.2 read).mpr (by decide +kernel)⟩

/-- The token and the one with a separator behind it are read alike. -/
theorem trailing_separator_read : parse (format plainSecret "" ++ "_") = .ok (plainSecret, "") ∧
      trimSpace (format plainSecret "" ++ "_").toList ≠ (format plainSecret "").toList := by
  constructor <;> decide +kernel

end Dicer.Token
