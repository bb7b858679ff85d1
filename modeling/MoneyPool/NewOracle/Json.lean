import MoneyPool.NewOracle.Model

/-!
# Looking a price up in an answer

The answer of a source is a JSON document, and the price in it is found by the keys of a path. A
reference into a document is modelled by the positions of the members that lead to it, with what
stands there (`MoneyPool.NewOracle.Ref`), so that two members with equal values are told apart.

A component of the path is a string of bytes and a key is a list of characters. The code cuts each
character to its low byte. The encoding of the key in UTF-8 is something else as soon as a character
is not plain ASCII (`MoneyPool.NewOracle.vecchars_eq_utf8_iff`): a key may be taken for a component
that it is not, and the right one may be missed. What the lookup follows exactly is the path of a
document whose keys read alike either way (`MoneyPool.NewOracle.follows_iff`).

The JSON parser is not part of the repository: its type of documents is a parameter here, and so is
what turns the leaf into a price.
-/

namespace MoneyPool

namespace NewOracle

/-- A key of an object. -/
abbrev JsonKey : Type := List Char

/-- **A reference into a document.** -/
structure Ref (JsonValue : Type) where
  /-- The positions of the members that lead there. -/
  steps : List ℕ
  value : JsonValue

section Lookup

variable {JsonValue : Type} (getObject : JsonValue → Option (List (JsonKey × JsonValue)))
  {α : Type}

/-- The characters of a key as bytes: each is cut to its low byte. -/
def veccharsToVecbytes (it : JsonKey) : StrBytes := it.map fun c => c.val.toUInt8

/-- Follow the components of a path from a reference on. -/
def descend (dataCur : Ref JsonValue) : List StrBytes → Except String (Ref JsonValue)
  | [] => .ok dataCur
  | f :: jsonPath =>
    match getObject dataCur.value with
    | some objVec =>
      match (objVec.zipIdx.filter fun m => f = veccharsToVecbytes m.1.1).head? with
      | some ((_, v), i) => descend { steps := dataCur.steps ++ [i], value := v } jsonPath
      | none => .error "fetch_price: JSON does not conform to expectation"
    | none => .error "JSON does not confirm to expectation"

/-- **Look a price up** in a document. -/
def parsePrice (parseField : Ref JsonValue → Except String α) (jsonData : JsonValue)
    (jsonPath : List StrBytes) : Except String α :=
  if jsonPath.length = 0 then parseField { steps := [], value := jsonData }
  else do
    let dataCur ← descend getObject { steps := [], value := jsonData } jsonPath
    parseField dataCur

end Lookup

/-! ### Readings of a key -/

/-- The UTF-8 encoding of a key. -/
def utf8 (key : JsonKey) : StrBytes := key.flatMap String.utf8EncodeChar

/-- A key is plain ASCII. -/
def IsAscii (key : JsonKey) : Prop := ∀ c ∈ key, c.val ≤ 127

instance (key : JsonKey) : Decidable (IsAscii key) :=
  inferInstanceAs (Decidable (∀ c ∈ key, c.val ≤ 127))

/-- The encoding is at least as long as the key. -/
theorem length_le_utf8 (key : JsonKey) : key.length ≤ (utf8 key).length := by
  induction key with
  | nil => exact Nat.zero_le _
  | cons c cs ih =>
    have hone : (utf8 (c :: cs)).length = c.utf8Size + (utf8 cs).length := by
      rw [utf8, List.flatMap_cons, List.length_append, String.length_utf8EncodeChar]
      rfl
    have hpos := c.utf8Size_pos
    rw [List.length_cons, hone]
    omega

/-- **The two readings of a key agree** exactly if it is plain ASCII. -/
theorem vecchars_eq_utf8_iff (key : JsonKey) :
    veccharsToVecbytes key = utf8 key ↔ IsAscii key := by
  induction key with
  | nil => exact iff_of_true rfl fun c hc => nomatch hc
  | cons c cs ih =>
    have hascii : IsAscii (c :: cs) ↔ c.val ≤ 127 ∧ IsAscii cs := List.forall_mem_cons
    have hcons : utf8 (c :: cs) = String.utf8EncodeChar c ++ utf8 cs := List.flatMap_cons
    rw [hascii, hcons, ← Char.utf8Size_eq_one_iff]
    constructor
    · intro h
      -- a longer character would make the encoding longer than the key
      have hlen := congrArg List.length h
      have hle := length_le_utf8 cs
      have hpos := c.utf8Size_pos
      simp only [veccharsToVecbytes, List.length_map, List.length_cons, List.length_append,
        String.length_utf8EncodeChar] at hlen
      have hsize : c.utf8Size = 1 := by omega
      rw [String.utf8EncodeChar_eq_singleton hsize] at h
      exact ⟨hsize, ih.mp (List.cons.inj h).2⟩
    · rintro ⟨hsize, hrest⟩
      rw [String.utf8EncodeChar_eq_singleton hsize, ← ih.mpr hrest]
      rfl

/-! ### The first match -/

section FirstMember

variable {JsonValue : Type} {read read' : JsonKey → StrBytes} {f : StrBytes}
  {members : List (JsonKey × JsonValue)} {m : JsonKey × JsonValue} {i : ℕ}

/-- The first member whose key reads as a component of a path, and its position. -/
def firstMember (read : JsonKey → StrBytes) (f : StrBytes) (members : List (JsonKey × JsonValue)) :
    Option ((JsonKey × JsonValue) × ℕ) :=
  (members.zipIdx.filter fun m => f = read m.1.1).head?

theorem firstMember_eq_some_iff :
    firstMember read f members = some (m, i) ↔
      members[i]? = some m ∧ f = read m.1 ∧ ∀ m' ∈ members.take i, f ≠ read m'.1 := by
  rw [firstMember, List.head?_filter, List.find?_eq_some_iff_append]
  constructor
  · rintro ⟨hread, before, after, hsplit, hbefore⟩
    have hmap := congrArg (List.map Prod.fst) hsplit
    rw [List.zipIdx_map_fst, List.map_append, List.map_cons] at hmap
    have hi : i = before.length := by
      have hget := congrArg (fun l => l[before.length]?) hsplit
      simp only [List.getElem?_zipIdx, hmap] at hget
      simpa using hget.symm
    have hlen : i = (before.map Prod.fst).length := by rw [hi, List.length_map]
    refine ⟨by rw [hmap, hlen, List.getElem?_append_right le_rfl, Nat.sub_self]; rfl,
      of_decide_eq_true hread, fun m' hm' => ?_⟩
    rw [hmap, hlen, List.take_left] at hm'
    obtain ⟨e, he, rfl⟩ := List.mem_map.mp hm'
    simpa using hbefore e he
  · rintro ⟨hget, hread, hbefore⟩
    obtain ⟨hi, hm⟩ := List.getElem?_eq_some_iff.mp hget
    have hlen : (members.take i).length = i := List.length_take_of_le hi.le
    refine ⟨decide_eq_true hread, (members.take i).zipIdx, (members.drop (i + 1)).zipIdx (i + 1),
      ?_, fun e he => ?_⟩
    · calc members.zipIdx = (members.take i ++ m :: members.drop (i + 1)).zipIdx := by
            rw [← hm, List.getElem_cons_drop, List.take_append_drop]
        _ = _ := by rw [List.zipIdx_append, List.zipIdx_cons, hlen, Nat.zero_add]
    · simpa using hbefore e.1 (List.fst_mem_of_mem_zipIdx he)

/-- The first member whose key reads as the component in one of two ways. -/
theorem exists_getElem?_of_find?
    (h : (members.find? fun m => f = read m.1 ∨ f = read' m.1) = some m) :
    ∃ i, members[i]? = some m ∧ (f = read m.1 ∨ f = read' m.1) ∧
      ∀ m' ∈ members.take i, f ≠ read m'.1 ∧ f ≠ read' m'.1 := by
  obtain ⟨hread, before, after, rfl, hbefore⟩ := List.find?_eq_some_iff_append.mp h
  refine ⟨before.length, by rw [List.getElem?_append_right le_rfl, Nat.sub_self]; rfl,
    of_decide_eq_true hread, fun m' hm' => ?_⟩
  rw [List.take_left] at hm'
  simpa using hbefore m' hm'

/-- No key reads as the component. -/
theorem firstMember_eq_none (h : ∀ m ∈ members, f ≠ read m.1) :
    firstMember read f members = none := by
  rw [firstMember, List.head?_filter, List.find?_eq_none]
  exact fun e he => by simpa using h e.1 (List.fst_mem_of_mem_zipIdx he)

end FirstMember

/-! ### Where a path leads -/

section Leads

variable {JsonValue : Type} {getObject : JsonValue → Option (List (JsonKey × JsonValue))}
  {read : JsonKey → StrBytes} {json : JsonValue} {cur r : Ref JsonValue} {f : StrBytes}
  {path : List StrBytes}

/-- **Where a path leads** from a document, if keys are read in a given way: at each step into the
first member whose key reads as the component. -/
inductive Leads (getObject : JsonValue → Option (List (JsonKey × JsonValue)))
    (read : JsonKey → StrBytes) : JsonValue → List StrBytes → Ref JsonValue → Prop
  /-- The path is at its end. -/
  | here (json : JsonValue) : Leads getObject read json [] { steps := [], value := json }
  /-- A component leads into a member. -/
  | down {json : JsonValue} {members : List (JsonKey × JsonValue)} {m : JsonKey × JsonValue}
      {i : ℕ} {f : StrBytes} {path : List StrBytes} {r : Ref JsonValue}
      (object : getObject json = some members) (member : members[i]? = some m)
      (key : f = read m.1) (first : ∀ m' ∈ members.take i, f ≠ read m'.1)
      (rest : Leads getObject read m.2 path r) :
      Leads getObject read json (f :: path) { steps := i :: r.steps, value := r.value }

theorem leads_nil_iff :
    Leads getObject read json [] r ↔ r = { steps := [], value := json } := by
  constructor
  · rintro ⟨⟩
    rfl
  · rintro rfl
    exact .here json

theorem leads_cons_iff :
    Leads getObject read json (f :: path) r ↔ ∃ members m i r', getObject json = some members ∧
      firstMember read f members = some (m, i) ∧ Leads getObject read m.2 path r' ∧
      r = { steps := i :: r'.steps, value := r'.value } := by
  constructor
  · intro h
    cases h with
    | @down _ members m i _ _ r hobject hmember hkey hfirst hrest =>
    have hfirstMember := firstMember_eq_some_iff.mpr ⟨hmember, hkey, hfirst⟩
    exact ⟨members, m, i, r, hobject, hfirstMember, hrest, rfl⟩
  · rintro ⟨members, m, i, r', hobject, hfirst, hrest, rfl⟩
    obtain ⟨hmember, hkey, hbefore⟩ := firstMember_eq_some_iff.mp hfirst
    exact .down hobject hmember hkey hbefore hrest

/-- **The code follows a path** as it reads the keys. -/
theorem descend_eq_ok_iff :
    descend getObject cur path = .ok r ↔
      ∃ r', Leads getObject veccharsToVecbytes cur.value path r' ∧
        r = { steps := cur.steps ++ r'.steps, value := r'.value } := by
  induction path generalizing cur with
  | nil =>
    simp only [descend, leads_nil_iff, exists_eq_left, List.append_nil, Except.ok.injEq]
    exact eq_comm
  | cons f path ih =>
    have hdescend : descend getObject cur (f :: path) = match getObject cur.value with
        | some objVec => match firstMember veccharsToVecbytes f objVec with
          | some ((_, v), i) => descend getObject { steps := cur.steps ++ [i], value := v } path
          | none => .error "fetch_price: JSON does not conform to expectation"
        | none => .error "JSON does not confirm to expectation" := rfl
    simp only [hdescend, leads_cons_iff]
    constructor
    · intro h
      split at h
      · rename_i members hobject
        split at h
        · rename_i k v i hfirst
          obtain ⟨r', hleads, rfl⟩ := ih.mp h
          refine ⟨_, ⟨members, (k, v), i, r', hobject, hfirst, hleads, rfl⟩, ?_⟩
          simp
        · cases h
      · cases h
    · rintro ⟨_, ⟨members, m, i, r', hobject, hfirst, hleads, rfl⟩, rfl⟩
      simp only [hobject, hfirst]
      refine ih.mpr ⟨r', hleads, ?_⟩
      simp

/-! ### The price of a path -/

/-- **The lookup follows a path exactly**: it hands the leaf to the conversion that the keys lead to
in UTF-8, and where they lead nowhere it returns an error. -/
structure Follows (getObject : JsonValue → Option (List (JsonKey × JsonValue))) (json : JsonValue)
    (path : List StrBytes) : Prop where
  reaches : ∀ r, Leads getObject utf8 json path r →
    ∀ (α : Type) (parseField : Ref JsonValue → Except String α),
      parsePrice getObject parseField json path = parseField r
  refuses : (∀ r, ¬Leads getObject utf8 json path r) →
    ∀ (α : Type) (parseField : Ref JsonValue → Except String α),
      ∃ e, parsePrice getObject parseField json path = .error e

/-- **Keys read plainly along a path**: in every object on the way, the first member whose key
reads as the component in UTF-8, or with each of its characters cut to a byte, has an ASCII key. -/
def ReadsPlainly (getObject : JsonValue → Option (List (JsonKey × JsonValue))) :
    JsonValue → List StrBytes → Prop
  | _, [] => True
  | json, f :: path => ∀ members, getObject json = some members → ∀ m,
      (members.find? fun m => f = veccharsToVecbytes m.1 ∨ f = utf8 m.1) = some m →
        IsAscii m.1 ∧ ReadsPlainly getObject m.2 path

/-- The lookup follows its components, and then converts what is there. -/
theorem parsePrice_eq {α : Type} (parseField : Ref JsonValue → Except String α) :
    parsePrice getObject parseField json path =
      (descend getObject { steps := [], value := json } path).bind parseField := by
  cases path with
  | nil => rfl
  | cons f path => rfl

theorem parsePrice_of_leads {α : Type} {parseField : Ref JsonValue → Except String α}
    (h : Leads getObject veccharsToVecbytes json path r) :
    parsePrice getObject parseField json path = parseField r := by
  have hdescend : descend getObject { steps := [], value := json } path = .ok r :=
    descend_eq_ok_iff.mpr ⟨r, h, rfl⟩
  rw [parsePrice_eq, hdescend]
  rfl

theorem parsePrice_of_not_leads {α : Type} {parseField : Ref JsonValue → Except String α}
    (h : ∀ r, ¬Leads getObject veccharsToVecbytes json path r) :
    ∃ e, parsePrice getObject parseField json path = .error e := by
  rw [parsePrice_eq]
  cases hdescend : descend getObject { steps := [], value := json } path with
  | error e => exact ⟨e, rfl⟩
  | ok r =>
    obtain ⟨r', hleads, -⟩ := descend_eq_ok_iff.mp hdescend
    exact absurd hleads (h r')

/-- The lookup follows a path if and only if the keys lead the same way in both readings. -/
theorem follows_iff_leads :
    Follows getObject json path ↔
      ∀ r, Leads getObject veccharsToVecbytes json path r ↔ Leads getObject utf8 json path r := by
  have hok : ∀ {r r' : Ref JsonValue}, Leads getObject veccharsToVecbytes json path r →
      parsePrice getObject .ok json path = .ok r' → r = r' := by
    intro r r' hleads hprice
    rw [parsePrice_of_leads hleads] at hprice
    exact Except.ok.inj hprice
  constructor
  · rintro ⟨hreaches, hrefuses⟩ r
    constructor
    · intro hleads
      by_contra hno
      by_cases hany : ∃ r', Leads getObject utf8 json path r'
      · obtain ⟨r', hleads'⟩ := hany
        exact hno (hok hleads (hreaches r' hleads' _ _) ▸ hleads')
      · obtain ⟨e, he⟩ := hrefuses (not_exists.mp hany) _ .ok
        rw [parsePrice_of_leads hleads] at he
        cases he
    · intro hleads
      have hprice := hreaches r hleads _ .ok
      by_contra hno
      by_cases hany : ∃ r', Leads getObject veccharsToVecbytes json path r'
      · obtain ⟨r', hleads'⟩ := hany
        exact hno (hok hleads' hprice ▸ hleads')
      · have hrefused : ∃ e, parsePrice getObject .ok json path = .error e :=
          parsePrice_of_not_leads (not_exists.mp hany)
        obtain ⟨e, he⟩ := hrefused
        rw [hprice] at he
        cases he
  · intro h
    exact ⟨fun r hleads _ _ => parsePrice_of_leads ((h r).mpr hleads),
      fun hno _ _ => parsePrice_of_not_leads fun r hleads => hno r ((h r).mp hleads)⟩

/-- Where the keys read plainly, both readings choose the same member of an object. -/
theorem firstMember_congr {members : List (JsonKey × JsonValue)}
    (h : ∀ m, (members.find? fun m => f = veccharsToVecbytes m.1 ∨ f = utf8 m.1) = some m →
      IsAscii m.1) :
    firstMember veccharsToVecbytes f members = firstMember utf8 f members := by
  cases hfind : members.find? fun m => f = veccharsToVecbytes m.1 ∨ f = utf8 m.1 with
  | none =>
    have hnone : ∀ m ∈ members, f ≠ veccharsToVecbytes m.1 ∧ f ≠ utf8 m.1 := by
      simpa using hfind
    rw [firstMember_eq_none fun m hm => (hnone m hm).1,
      firstMember_eq_none fun m hm => (hnone m hm).2]
  | some m =>
    obtain ⟨i, hmember, hread, hbefore⟩ := exists_getElem?_of_find? hfind
    have hsame := (vecchars_eq_utf8_iff m.1).mpr (h m hfind)
    rw [hsame, or_self] at hread
    rw [firstMember_eq_some_iff.mpr ⟨hmember, hread, fun m' hm' => (hbefore m' hm').2⟩]
    exact firstMember_eq_some_iff.mpr ⟨hmember, hsame ▸ hread, fun m' hm' => (hbefore m' hm').1⟩

/-- Where both readings choose the same member for every component, the keys read plainly. -/
theorem isAscii_of_firstMember {members : List (JsonKey × JsonValue)} {m : JsonKey × JsonValue}
    (hfind : (members.find? fun m => f = veccharsToVecbytes m.1 ∨ f = utf8 m.1) = some m)
    (h : firstMember veccharsToVecbytes f members = firstMember utf8 f members) :
    IsAscii m.1 ∧ ∃ i, firstMember veccharsToVecbytes f members = some (m, i) ∧
      firstMember utf8 f members = some (m, i) := by
  obtain ⟨i, hmember, hread, hbefore⟩ := exists_getElem?_of_find? hfind
  have hboth : firstMember veccharsToVecbytes f members = some (m, i) := by
    rcases hread with hread | hread
    · exact firstMember_eq_some_iff.mpr ⟨hmember, hread, fun m' hm' => (hbefore m' hm').1⟩
    · rw [h]
      exact firstMember_eq_some_iff.mpr ⟨hmember, hread, fun m' hm' => (hbefore m' hm').2⟩
  obtain ⟨-, hvec, -⟩ := firstMember_eq_some_iff.mp hboth
  obtain ⟨-, hutf, -⟩ := firstMember_eq_some_iff.mp (h ▸ hboth)
  exact ⟨(vecchars_eq_utf8_iff m.1).mp (hvec.symm.trans hutf), i, hboth, h ▸ hboth⟩

/-- The member that both readings choose is the first one that either of them finds. -/
theorem find?_of_firstMember {members : List (JsonKey × JsonValue)}
    {m : JsonKey × JsonValue} {i : ℕ}
    (h : firstMember veccharsToVecbytes f members = firstMember utf8 f members)
    (hfirst : firstMember utf8 f members = some (m, i)) :
    (members.find? fun m => f = veccharsToVecbytes m.1 ∨ f = utf8 m.1) = some m := by
  cases hfind : members.find? fun m => f = veccharsToVecbytes m.1 ∨ f = utf8 m.1 with
  | none =>
    obtain ⟨hmember, hread, -⟩ := firstMember_eq_some_iff.mp hfirst
    have hno := List.find?_eq_none.mp hfind m (List.mem_of_getElem? hmember)
    exact absurd (decide_eq_true (Or.inr hread)) hno
  | some m' =>
    obtain ⟨-, i', -, hutf⟩ := isAscii_of_firstMember hfind h
    cases hfirst.symm.trans hutf
    rfl

/-- If one component leads the same way in two readings, they choose the same member. -/
theorem firstMember_of_leads {read' : JsonKey → StrBytes} {members : List (JsonKey × JsonValue)}
    {m : JsonKey × JsonValue} {i : ℕ} (hobject : getObject json = some members)
    (h : ∀ r, Leads getObject read json [f] r → Leads getObject read' json [f] r)
    (hfirst : firstMember read f members = some (m, i)) :
    firstMember read' f members = some (m, i) := by
  obtain ⟨members', m', i', r', hobject', hfirst', hleads, hr⟩ :=
    leads_cons_iff.mp (h _ (leads_cons_iff.mpr ⟨members, m, i, _, hobject, hfirst, .here m.2, rfl⟩))
  obtain rfl := Option.some.inj (hobject.symm.trans hobject')
  obtain rfl := leads_nil_iff.mp hleads
  obtain rfl : i = i' := (List.cons.inj (congrArg Ref.steps hr)).1
  have hm : some m = some m' :=
    (firstMember_eq_some_iff.mp hfirst).1.symm.trans (firstMember_eq_some_iff.mp hfirst').1
  exact Option.some.inj hm ▸ hfirst'

/-- The keys lead the same way along all beginnings of a path if and only if they read plainly. -/
theorem leads_iff_readsPlainly :
    (∀ path', path' <+: path → ∀ r, Leads getObject veccharsToVecbytes json path' r ↔
      Leads getObject utf8 json path' r) ↔ ReadsPlainly getObject json path := by
  induction path generalizing json with
  | nil =>
    refine iff_of_true (fun path' hprefix r => ?_) trivial
    rw [List.prefix_nil.mp hprefix, leads_nil_iff, leads_nil_iff]
  | cons f path ih =>
    constructor
    · intro h members hobject m hfind
      have hone := h [f] (List.prefix_append [f] path)
      have hchoice : firstMember veccharsToVecbytes f members = firstMember utf8 f members :=
        Option.ext fun _ => ⟨firstMember_of_leads hobject fun r => (hone r).mp,
          firstMember_of_leads hobject fun r => (hone r).mpr⟩
      obtain ⟨hascii, i, hvec, hutf⟩ := isAscii_of_firstMember hfind hchoice
      refine ⟨hascii, ih.mp fun path' hprefix r => ?_⟩
      -- what the rest of the path does here, the whole path does from above
      have habove : ∀ {read : JsonKey → StrBytes}, firstMember read f members = some (m, i) →
          (Leads getObject read json (f :: path') { steps := i :: r.steps, value := r.value } ↔
            Leads getObject read m.2 path' r) := by
        intro read hfirst
        constructor
        · intro hleads
          obtain ⟨members', m', i', ⟨steps, value⟩, hobject', hfirst', hrest, hr⟩ :=
            leads_cons_iff.mp hleads
          cases hobject.symm.trans hobject'
          cases hfirst.symm.trans hfirst'
          cases r
          cases hr
          exact hrest
        · exact fun hrest => leads_cons_iff.mpr ⟨members, m, i, r, hobject, hfirst, hrest, rfl⟩
      rw [← habove hvec, ← habove hutf]
      exact h (f :: path') (List.cons_prefix_cons.mpr ⟨rfl, hprefix⟩) _
    · intro h path' hprefix r
      cases path' with
      | nil => rw [leads_nil_iff, leads_nil_iff]
      | cons f' path' =>
        obtain ⟨rfl, hrest⟩ := List.cons_prefix_cons.mp hprefix
        rw [leads_cons_iff, leads_cons_iff]
        refine exists_congr fun members => exists_congr fun m => exists_congr fun i =>
          exists_congr fun r' => and_congr_right fun hobject => ?_
        have hchoice : firstMember veccharsToVecbytes f' members = firstMember utf8 f' members :=
          firstMember_congr fun m hfind => (h members hobject m hfind).1
        rw [hchoice]
        refine and_congr_right fun hfirst => and_congr_left fun _ => ?_
        have hfind :
            (members.find? fun m => f' = veccharsToVecbytes m.1 ∨ f' = utf8 m.1) = some m :=
          find?_of_firstMember hchoice hfirst
        exact ih.mpr (h members hobject m hfind).2 path' hrest r'

/-- **When the lookup follows a path.** It follows all beginnings of a path, and so the path at
each of its steps, if and only if the keys read plainly along it. -/
theorem follows_iff :
    (∀ path', path' <+: path → Follows getObject json path') ↔
      ReadsPlainly getObject json path := by
  rw [← leads_iff_readsPlainly]
  exact forall_congr' fun path' => imp_congr_right fun _ => follows_iff_leads

end Leads

/-! ### A key that is taken for another -/

/-- Documents of objects and numbers. -/
inductive ExampleJson where
  | object (members : List (JsonKey × ExampleJson)) : ExampleJson
  | number (n : ℕ) : ExampleJson

/-- The members of an object. -/
def ExampleJson.getObject : ExampleJson → Option (List (JsonKey × ExampleJson))
  | .object members => some members
  | .number _ => none

/-- The number at a leaf. -/
def ExampleJson.parseField (r : Ref ExampleJson) : Except String ℕ :=
  match r.value with
  | .object _ => .error "unknown data"
  | .number n => .ok n

/-- An object with the keys `Ł`, which ends in the byte of an `A`, and `A`. -/
def exampleJson : ExampleJson := .object [(['Ł'], .number 1), (['A'], .number 2)]

/-- The price at `A` is taken from another key. -/
theorem follows_fails :
    parsePrice ExampleJson.getObject ExampleJson.parseField exampleJson [[65]] = .ok 1 ∧
      Leads ExampleJson.getObject utf8 exampleJson [[65]] { steps := [1], value := .number 2 } ∧
      ¬Follows ExampleJson.getObject exampleJson [[65]] := by
  have hprice : parsePrice ExampleJson.getObject ExampleJson.parseField exampleJson [[65]] =
    .ok 1 := rfl
  have hfirst : firstMember utf8 [65] [(['Ł'], ExampleJson.number 1), (['A'], .number 2)] =
      some ((['A'], .number 2), 1) := rfl
  have hleads : Leads ExampleJson.getObject utf8 exampleJson [[65]]
      { steps := [1], value := .number 2 } :=
    leads_cons_iff.mpr ⟨_, _, _, _, rfl, hfirst, .here _, rfl⟩
  refine ⟨hprice, hleads, fun h => ?_⟩
  have hright := h.reaches _ hleads ℕ ExampleJson.parseField
  rw [hprice] at hright
  exact absurd (Except.ok.inj hright) (by decide)

end NewOracle

end MoneyPool
