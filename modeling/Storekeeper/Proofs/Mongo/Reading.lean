import Storekeeper.Mongo.ConnectionString
import Storekeeper.Proofs.Url.Reading

/-!
# Reading connection strings

What `Mongo.ConnectionString.parse` makes of `mongodb://`, a list of members, a database and
options: each part is read by itself, up to the character that ends it.  A text without percent
signs denotes itself, and the members are the parts of the text before the slash that commas
separate, as many as there are.
-/

namespace Storekeeper

namespace Url

variable {sep : Char} {s : List Char}

theorem splitOn_ne_nil (sep : Char) (s : List Char) :
  splitOn sep s ≠ []
  := by
  cases s with
  | nil => exact List.cons_ne_nil _ _
  | cons c s =>
    rw [splitOn]
    split
    · split
      · exact List.cons_ne_nil _ _
      · exact List.cons_ne_nil _ _
    · exact List.cons_ne_nil _ _

theorem splitOn_of_notMem (h : sep ∉ s) :
  splitOn sep s = [s]
  := by
  induction s with
  | nil => rfl
  | cons c s ih =>
    rw [List.mem_cons, not_or] at h
    obtain ⟨hc, hs⟩ := h
    simp only [splitOn, ih hs]
    exact if_neg (by simpa using Ne.symm hc)

/-- The first part of a text is what stands before the first separator. -/
theorem splitOn_append (h : sep ∉ s) (rest : List Char) :
  splitOn sep (s ++ sep :: rest) = s :: splitOn sep rest
  := by
  induction s with
  | nil =>
    obtain ⟨part, parts, hrest⟩ := List.exists_cons_of_ne_nil (splitOn_ne_nil sep rest)
    simp [splitOn, hrest]
  | cons c s ih =>
    rw [List.mem_cons, not_or] at h
    obtain ⟨hc, hs⟩ := h
    rw [List.cons_append, splitOn, ih hs]
    exact if_neg (by simpa using Ne.symm hc)

/-- The bytes of an array from one of them on, behind those that were listed before. -/
theorem toList_loop (b : ByteArray) (i : Nat) (r : List UInt8) :
  ByteArray.toList.loop b i r = r.reverse ++ b.data.toList.drop i
  := by
  fun_induction ByteArray.toList.loop b i r with
  | case1 i r hi ih =>
    have hlt : i < b.data.toList.length := hi
    have hget : b.get! i = b.data.toList[i] := by
      rw [Array.getElem_toList]
      exact getElem!_pos b.data i hi
    rw [ih, List.drop_eq_getElem_cons hlt, hget, List.reverse_cons, List.append_assoc,
      List.singleton_append]
  | case2 i r hi =>
    have hle : b.data.toList.length ≤ i := Nat.le_of_not_lt hi
    rw [List.drop_eq_nil_of_le hle, List.append_nil]

theorem toList_toUTF8 (s : String) :
  s.toUTF8.toList = s.toList.flatMap String.utf8EncodeChar
  := by
  rw [ByteArray.toList, toList_loop, String.toUTF8_eq_toByteArray, ← String.utf8Encode_toList,
    List.utf8Encode]
  simp

/-- Where nothing is coded the bytes are those of the text. -/
theorem unescapedBytes_of_notMem (h : '%' ∉ s) :
  unescapedBytes s = s.flatMap String.utf8EncodeChar
  := by
  induction s with
  | nil => rfl
  | cons c s ih =>
    rw [List.mem_cons, not_or] at h
    obtain ⟨hc, hs⟩ := h
    have hbytes : (String.singleton c).toUTF8.toList = String.utf8EncodeChar c := by
      rw [toList_toUTF8, String.toList_singleton, List.flatMap_singleton]
    rw [unescapedBytes, ih hs, hbytes, List.flatMap_cons]
    rintro a b rest rfl
    exact absurd rfl hc

/-- A text without percent signs denotes itself. -/
theorem unescape?_of_notMem (h : '%' ∉ s) :
  unescape? s = some s
  := by
  have hbytes : (⟨(unescapedBytes s).toArray⟩ : ByteArray) = (String.ofList s).toByteArray := by
    rw [unescapedBytes_of_notMem h, ← String.utf8Encode_toList, String.toList_ofList,
      List.utf8Encode]
    apply ByteArray.ext
    simp
  rw [unescape?, hbytes, String.fromUTF8?, dif_pos (String.ofList s).isValidUTF8]
  exact congrArg some String.toList_ofList

end Url

namespace Mongo.ConnectionString

variable {sep : Char} {s : List Char}

theorem splitFirst_append (h : sep ∉ s) (rest : List Char) :
  splitFirst sep (s ++ sep :: rest) = some (s, rest)
  := by
  have hkeep : ∀ c ∈ s, (c != sep) = true := by
    intro c hc
    apply bne_iff_ne.mpr
    rintro rfl
    exact h hc
  have hsep : (sep != sep) = false := bne_self_eq_false sep
  simp only [splitFirst, Url.dropWhile_append_cons hkeep hsep, Url.takeWhile_append_cons hkeep hsep]

theorem splitFirst_of_notMem (h : sep ∉ s) :
  splitFirst sep s = none
  := by
  have hdrop : s.dropWhile (· != sep) = [] := by
    apply List.dropWhile_eq_nil_iff.mpr
    intro c hc
    apply bne_iff_ne.mpr
    rintro rfl
    exact h hc
  rw [splitFirst, hdrop]

/-- Credentials are cut off where a URL has them. -/
theorem withoutCredentials_eq (s : List Char) :
  withoutCredentials s = (Url.splitUserInfo s).2
  := by
  rw [Url.splitUserInfo]
  split
  · rfl
  · rfl

/-- The address of a member with a port. -/
theorem parseAddress_append {host port : List Char} {n : Nat} (hne : host ≠ [])
    (hhost : ':' ∉ host) (hport : Text.readDigits port = some n) (hpos : 1 ≤ n) (hn : n ≤ 65535) :
  parseAddress (host ++ ':' :: port) = .ok ⟨String.ofList host, some n⟩
  := by
  have hdigits : ∀ c ∈ port, c.isDigit = true := Text.isDigit_of_readDigits hport
  have hcolon : ':' ∉ port := by
    intro hc
    cases hdigits _ hc
  have hnatural : Text.readNatural port = some n := by
    rw [Text.readNatural]
    · exact hport
    · rintro ds rfl
      cases hdigits _ List.mem_cons_self
  have hword : Text.readWord 16 port = some n := by
    have hlt : n < Nat.pow 2 16 := Nat.lt_succ_of_le hn
    rw [Text.readWord, hnatural, Option.filter_some, if_pos (decide_eq_true hlt)]
  obtain ⟨m, rfl⟩ := Nat.exists_eq_succ_of_ne_zero (Nat.ne_zero_of_lt hpos)
  rw [parseAddress, Url.splitOn_append hhost, Url.splitOn_of_notMem hcolon]
  cases host with
  | nil => exact absurd rfl hne
  | cons c host => simp only [hword, List.isEmpty_nil, if_true]

/-- The name of a database in which nothing is coded. -/
theorem parseDatabase_eq (hne : s ≠ []) (h : ∀ c ∈ s, c ≠ '%' ∧ isIllegalInDatabase c = false) :
  parseDatabase s = .ok (some (String.ofList s))
  := by
  have hcoded : '%' ∉ s := fun hc => (h _ hc).1 rfl
  have hillegal : s.any isIllegalInDatabase = false := by
    apply List.any_eq_false.mpr
    intro c hc
    simp [(h c hc).2]
  have hfull : s.isEmpty = false := by simpa using hne
  simp only [parseDatabase, hfull, Url.unescape?_of_notMem hcoded, hillegal, Bool.false_eq_true,
    if_false]

/-- Each part of a connection string is read by itself. -/
theorem parse_mongodb {authority tail database options : List Char} (hne : authority ≠ [])
    (hauthority : '/' ∉ authority)
    (htail : (splitFirst '?' tail).getD (tail, []) = (database, options)) {name : Option String}
    (hname : parseDatabase database = .ok name) {hosts : List Address}
    (hhosts : (Url.splitOn ',' (Url.splitUserInfo authority).2).mapM parseAddress = .ok hosts) :
  parse (String.ofList ("mongodb://".toList ++ (authority ++ '/' :: tail)))
    = (parseOptions options).map fun options => { hosts, database := name, options }
  := by
  have hscheme : splitScheme ("mongodb://".toList ++ (authority ++ '/' :: tail))
      = some ("mongodb".toList, authority ++ '/' :: tail) := rfl
  have hsplit : splitHosts (authority ++ '/' :: tail) = .ok (authority, tail) := by
    rw [splitHosts, splitFirst_append hauthority]
    cases authority with
    | nil => exact absurd rfl hne
    | cons c authority => rfl
  have hbind {α β : Type} (a : α) (f : α → Except String β) : (Except.ok a >>= f) = f a := rfl
  rw [parse, String.toList_ofList, parseChars, hscheme]
  simp only [parseScheme, hbind, hsplit, htail, hname, withoutCredentials_eq, hhosts, if_true,
    Bool.false_eq_true, if_false]
  cases parseOptions options with
  | error e => rfl
  | ok options => rfl

end Mongo.ConnectionString

end Storekeeper
