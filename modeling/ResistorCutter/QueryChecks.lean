import ResistorCutter.RequestChecks

/-!
The URL of a request: a path and parameters that a client has written out are what the handlers
get to see.
-/

namespace ResistorCutter

open Http

theorem hexDigit_hexChar {n : Nat} (digit : n < 16) : hexDigit (hexChar n) = some n := by
  have all : ∀ n < 16, hexDigit (hexChar n) = some n := by decide
  exact all n digit

theorem hexChar_isAlphanum {n : Nat} (digit : n < 16) : (hexChar n).isAlphanum = true := by
  have all : ∀ n < 16, (hexChar n).isAlphanum = true := by decide
  exact all n digit

theorem urlDecode_plain {c : Char} (percent : c ≠ '%') (plus : c ≠ '+') (rest : List Char) :
    urlDecode (c :: rest) = c :: urlDecode rest := by
  rw [urlDecode]
  · rintro high low tail rfl
    exact absurd rfl percent
  · rintro rfl
    exact absurd rfl plus

theorem urlDecode_encoded {c : Char} (byte : c.toNat < 256) (rest : List Char) :
    urlDecode ('%' :: hexChar (c.toNat / 16) :: hexChar (c.toNat % 16) :: rest) =
      c :: urlDecode rest := by
  have high := hexDigit_hexChar (by omega : c.toNat / 16 < 16)
  have low := hexDigit_hexChar (by omega : c.toNat % 16 < 16)
  have value : 16 * (c.toNat / 16) + c.toNat % 16 = c.toNat := by omega
  rw [urlDecode, strtol, high, low]
  dsimp only
  rw [value, Char.ofNat_toNat]

theorem urlDecode_percentEncode {keep : Char → Bool} (percent : keep '%' = false)
    (plus : keep '+' = false) {text : List Char} (bytes : ∀ c ∈ text, c.toNat < 256) :
    urlDecode (percentEncode keep text) = text := by
  induction text with
  | nil => rfl
  | cons c text ih =>
      have later := ih fun d member => bytes d (List.mem_cons_of_mem _ member)
      rw [percentEncode, List.flatMap_cons]
      split
      · rename_i kept
        have notPercent : c ≠ '%' := by
          rintro rfl
          rw [percent] at kept
          cases kept
        have notPlus : c ≠ '+' := by
          rintro rfl
          rw [plus] at kept
          cases kept
        rw [List.singleton_append, urlDecode_plain notPercent notPlus]
        exact congrArg (c :: ·) later
      · rw [List.cons_append, List.cons_append, List.cons_append, List.nil_append,
          urlDecode_encoded (bytes c List.mem_cons_self)]
        exact congrArg (c :: ·) later

/-- What stands in an encoded text is kept, a percent sign or part of a number. -/
theorem mem_percentEncode {keep : Char → Bool} {text : List Char}
    (bytes : ∀ c ∈ text, c.toNat < 256) {d : Char} (member : d ∈ percentEncode keep text) :
    keep d = true ∨ d = '%' ∨ d.isAlphanum = true := by
  simp only [percentEncode, List.mem_flatMap] at member
  obtain ⟨c, among, member⟩ := member
  have byte := bytes c among
  split at member
  · rename_i kept
    obtain rfl := List.mem_singleton.mp member
    exact .inl kept
  · simp only [List.mem_cons, List.not_mem_nil, or_false] at member
    rcases member with rfl | rfl | rfl
    · exact .inr (.inl rfl)
    · exact .inr (.inr (hexChar_isAlphanum (by omega)))
    · exact .inr (.inr (hexChar_isAlphanum (by omega)))

theorem not_mem_percentEncode {keep : Char → Bool} {text : List Char}
    (bytes : ∀ c ∈ text, c.toNat < 256) {d : Char} (dropped : keep d = false) (percent : d ≠ '%')
    (number : d.isAlphanum = false) : d ∉ percentEncode keep text := by
  intro member
  rcases mem_percentEncode bytes member with kept | same | digit
  · rw [dropped] at kept
    cases kept
  · exact percent same
  · rw [number] at digit
    cases digit

theorem encodeParam_name {param : Text × Text} (bytes : ∀ c ∈ param.1, c.toNat < 256) :
    (encodeParam param).takeWhile (· ≠ '=') = percentEncode unreserved param.1 := by
  refine (takeWhile_append_cons (fun d member => ?_) (by decide) _).1
  refine decide_eq_true ?_
  rintro rfl
  exact not_mem_percentEncode bytes (by decide) (by decide) (by decide) member

theorem addGetParams_encodeQuery {params : List (Text × Text)}
    (bytes : ∀ param ∈ params, ∀ c ∈ param.1 ++ param.2, c.toNat < 256) :
    addGetParams (encodeQuery params) =
      params.map fun param => ⟨String.ofList param.1, false, false⟩ := by
  have names : ∀ param ∈ params, ∀ c ∈ param.1, c.toNat < 256 :=
    fun param among c member => bytes param among c (List.mem_append_left _ member)
  have values : ∀ param ∈ params, ∀ c ∈ param.2, c.toNat < 256 :=
    fun param among c member => bytes param among c (List.mem_append_right _ member)
  have read : (params.map encodeParam).map (fun text =>
      (⟨String.ofList (urlDecode (text.takeWhile (· ≠ '='))), false, false⟩ : Param)) =
      params.map fun param => ⟨String.ofList param.1, false, false⟩ := by
    rw [List.map_map]
    refine List.map_congr_left fun param among => ?_
    rw [Function.comp_apply, encodeParam_name (names param among),
      urlDecode_percentEncode (by decide) (by decide) (names param among)]
  rw [addGetParams]
  by_cases none : params = []
  · subst none
    rfl
  · have apart : ∀ text ∈ params.map encodeParam, '&' ∉ text := by
      intro text member
      obtain ⟨param, among, rfl⟩ := List.mem_map.mp member
      intro separator
      rcases List.mem_append.mp separator with name | value
      · exact not_mem_percentEncode (names param among) (by decide) (by decide) (by decide) name
      · rcases List.mem_cons.mp value with impossible | value
        · cases impossible
        · exact not_mem_percentEncode (values param among) (by decide) (by decide) (by decide) value
    have last : (params.map encodeParam).getLast? ≠ some [] := by
      intro empty
      have member := List.mem_of_mem_getLast? empty
      obtain ⟨param, -, impossible⟩ := List.mem_map.mp member
      simp [encodeParam] at impossible
    have split : (encodeQuery params).splitOn '&' = params.map encodeParam :=
      List.splitOn_intercalate '&' apart (by simpa using none)
    rw [split, if_neg last, read]

theorem splitUrl_plain {path : Text} (plain : '?' ∉ path) : splitUrl path = (path, []) :=
  if_neg fun both => plain both.2

theorem splitUrl_query {path : Text} (first : path.head? ≠ none) (plain : '?' ∉ path)
    (query : Text) : splitUrl (path ++ '?' :: query) = (path, query) := by
  have keep : ∀ c ∈ path, (decide (c ≠ '?')) = true :=
    fun c member => decide_eq_true fun same => plain (same ▸ member)
  obtain ⟨taken, left⟩ := takeWhile_append_cons keep (c := '?') (by decide) query
  have asked : (path ++ '?' :: query).head? ≠ some '?' ∧ '?' ∈ path ++ '?' :: query := by
    cases path with
    | nil => exact absurd rfl first
    | cons c path =>
        simp only [List.mem_cons, not_or] at plain
        refine ⟨?_, by simp⟩
        rw [List.cons_append, List.head?_cons, ne_eq, Option.some.injEq]
        exact fun same => plain.1 same.symm
  rw [splitUrl, if_pos asked, taken, left]
  rfl

/-- Every path and all parameters that a client writes out reach the handlers as they are. -/
theorem parseReqHead_encodeTarget (host : List Char) {path : Text} (slash : path.head? = some '/')
    {params : List (Text × Text)} (pathBytes : ∀ c ∈ path, c.toNat < 256)
    (bytes : ∀ param ∈ params, ∀ c ∈ param.1 ++ param.2, c.toNat < 256) :
    parseReqHead host (encodeTarget path params) =
      { host := host
        params := params.map fun param => ⟨String.ofList param.1, false, false⟩
        url := path } := by
  have decoded := @urlDecode_percentEncode (fun c => unreserved c || c = '/') (by decide)
    (by decide) path pathBytes
  have plain : '?' ∉ percentEncode (fun c => unreserved c || c = '/') path :=
    not_mem_percentEncode pathBytes (by decide) (by decide) (by decide)
  have first : (percentEncode (fun c => unreserved c || c = '/') path).head? = some '/' := by
    obtain ⟨tail, rfl⟩ : ∃ tail, path = '/' :: tail := List.head?_eq_some_iff.mp slash
    rfl
  rw [encodeTarget, parseReqHead]
  by_cases none : params = []
  · subst none
    rw [if_pos rfl, List.append_nil, splitUrl_plain plain]
    dsimp only
    rw [decoded]
    rfl
  · rw [if_neg none, splitUrl_query (by rw [first]; decide) plain]
    dsimp only
    rw [decoded, addGetParams_encodeQuery bytes]

theorem parseReqHead_encodeTarget_blank :
    parseReqHead "4.3.2.1".toList
        (encodeTarget "/a b".toList [("re?".toList, "1&2".toList), ([], "%".toList)]) =
      { host := "4.3.2.1".toList
        params := [⟨"re?", false, false⟩, ⟨"", false, false⟩]
        url := "/a b".toList } :=
  parseReqHead_encodeTarget "4.3.2.1".toList (by decide) (by decide) (by decide)

end ResistorCutter
