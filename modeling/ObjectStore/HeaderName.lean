/-!
# Names of headers

Header names are case-insensitive. Of the spellings of a name one is canonical:
letters that begin a word in upper case, all others in lower case. A name with a
character that no header name may hold has no other spelling than its own. The
canonical spelling of a canonical spelling is itself (`canonical_canonical`).
-/

namespace ObjectStore.HeaderName

/-- The characters other than letters and digits that a header name may hold. -/
def symbols : List Char :=
  ['!', '#', '$', '%', '&', '\x27', '*', '+', '-', '.', '^', '_', '\x60', '|', '~']

/-- The characters of which a header name is made (the `token` of HTTP). -/
def isTokenChar (c : Char) : Bool := c.isAlphanum || symbols.contains c

/-- Whether every character may stand in a header name. -/
def isToken (name : String) : Bool := name.toList.all isTokenChar

/-- A letter in upper case at the start of a word, else in lower case. -/
def withCase (start : Bool) (c : Char) : Char := if start then c.toUpper else c.toLower

/-- The letters of words in their case; `start` says whether the first character begins a word. -/
def capitalize (start : Bool) : List Char → List Char
  | [] => []
  | c :: cs => withCase start c :: capitalize (c == '-') cs

/-- The spelling under which a header is stored. -/
def canonical (name : String) : String :=
  if isToken name then String.ofList (capitalize true name.toList) else name

/-! ## Canonical spellings -/

private theorem all_symbols_lt : symbols.all (fun c => decide (c.toNat < 128)) = true := by decide

private theorem toNat_lt_of_isAlphanum {c : Char} (h : c.isAlphanum = true) : c.toNat < 128 := by
  change ((decide (c.val ≥ 'A'.val ∧ c.val ≤ 'Z'.val) ||
    (decide (c.val ≥ 'a'.val) && decide (c.val ≤ 'z'.val))) ||
    (decide (c.val ≥ '0'.val) && decide (c.val ≤ '9'.val))) = true at h
  simp only [Bool.or_eq_true, Bool.and_eq_true, decide_eq_true_eq] at h
  rcases h with (⟨_, h⟩ | ⟨_, h⟩) | ⟨_, h⟩
  all_goals exact Nat.lt_of_le_of_lt (UInt32.le_iff_toNat_le.mp h) (by decide)

/-- The characters of header names are ASCII. -/
theorem toNat_lt_of_isTokenChar {c : Char} (h : isTokenChar c = true) : c.toNat < 128 := by
  rcases (Bool.or_eq_true ..).mp h with h | h
  · exact toNat_lt_of_isAlphanum h
  · exact of_decide_eq_true (List.all_eq_true.mp all_symbols_lt c (List.contains_iff_mem.mp h))

private theorem withCase_ofNat : ∀ n < 128, ∀ start, isTokenChar (Char.ofNat n) = true →
    isTokenChar (withCase start (Char.ofNat n)) = true ∧
    withCase start (withCase start (Char.ofNat n)) = withCase start (Char.ofNat n) ∧
    (withCase start (Char.ofNat n) == '-') = (Char.ofNat n == '-') := by decide

/-- Changing the case keeps a name a name, does nothing the second time, and keeps the hyphens. -/
theorem withCase_of_isTokenChar (start : Bool) {c : Char} (h : isTokenChar c = true) :
    isTokenChar (withCase start c) = true ∧ withCase start (withCase start c) = withCase start c ∧
    (withCase start c == '-') = (c == '-') := by
  have hc := withCase_ofNat c.toNat (toNat_lt_of_isTokenChar h) start
  rw [Char.ofNat_toNat] at hc
  exact hc h

/-- Words stay words of the same characters when their case is set. -/
theorem all_capitalize {cs : List Char} (start : Bool) (h : cs.all isTokenChar = true) :
    (capitalize start cs).all isTokenChar = true := by
  induction cs generalizing start with
  | nil => rfl
  | cons c cs ih =>
    rw [List.all_cons, Bool.and_eq_true] at h
    rw [capitalize, List.all_cons, (withCase_of_isTokenChar start h.1).1, ih _ h.2]
    rfl

/-- Setting the case of words a second time changes nothing. -/
theorem capitalize_capitalize {cs : List Char} (start : Bool) (h : cs.all isTokenChar = true) :
    capitalize start (capitalize start cs) = capitalize start cs := by
  induction cs generalizing start with
  | nil => rfl
  | cons c cs ih =>
    rw [List.all_cons, Bool.and_eq_true] at h
    obtain ⟨_, htwice, hhyphen⟩ := withCase_of_isTokenChar start h.1
    rw [capitalize, capitalize, htwice, hhyphen, ih _ h.2]

/-- A canonical spelling is its own canonical spelling. -/
@[simp] theorem canonical_canonical (name : String) : canonical (canonical name) = canonical name := by
  by_cases h : isToken name = true
  · have hc : isToken (String.ofList (capitalize true name.toList)) = true := by
      simpa [isToken] using all_capitalize true h
    simp only [canonical, if_pos h, if_pos hc, String.toList_ofList, capitalize_capitalize true h]
  · simp only [canonical, if_neg h]

/-! ## Names with a meaning -/

def ifMatch := "If-Match"
def ifNoneMatch := "If-None-Match"
def ifModifiedSince := "If-Modified-Since"
def ifUnmodifiedSince := "If-Unmodified-Since"
def range := "Range"
def contentType := "Content-Type"
def contentEncoding := "Content-Encoding"
def contentDisposition := "Content-Disposition"
def cacheControl := "Cache-Control"
def checksumMode := "X-Amz-Checksum-Mode"
def storageClass := "X-Amz-Storage-Class"
def tagging := "X-Amz-Tagging"
def sourceProxyRequest := "X-Minio-Source-Proxy-Request"
def encryption := "X-Amz-Server-Side-Encryption"
def kmsKeyId := "X-Amz-Server-Side-Encryption-Aws-Kms-Key-Id"
def customerAlgorithm := "X-Amz-Server-Side-Encryption-Customer-Algorithm"
def customerKey := "X-Amz-Server-Side-Encryption-Customer-Key"
def customerKeyMd5 := "X-Amz-Server-Side-Encryption-Customer-Key-Md5"

/-- What the name of a header with metadata of the user begins with. -/
def metadataStart := "X-Amz-Meta-"

end ObjectStore.HeaderName
