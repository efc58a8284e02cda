import SchemaKit.Proofs.Escapes
import SchemaKit.Proofs.FileNames
import SchemaKit.Proofs.Reading

/-!
# Listings

What discovery makes of the entries of a directory.  A migration is discovered exactly if a file of
its name is there (`mem_found_iff`), and of those of one version the one comes first whose file name
does (`entryName_le_of_find?`).  A directory that a file is added to lists all that it has listed
before (`mem_found_add`), and reads the same in it (`read_add`).
-/

namespace SchemaKit

/-- What bytes are decoded to encodes to these bytes. -/
theorem Text.Utf8.encode_of_decode? {bytes : List UInt8} {text : String}
    (h : decode? bytes = some text) : encode text.toList = bytes := by
  unfold decode? String.fromUTF8? at h
  split at h
  · obtain rfl := Option.some.inj h
    have hbytes : (encode (String.fromUTF8 ⟨bytes.toArray⟩ ‹_›).toList).toByteArray =
        ⟨bytes.toArray⟩ := String.utf8Encode_toList
    have hdata := congrArg ByteArray.data hbytes
    rw [List.data_toByteArray] at hdata
    exact congrArg Array.toList hdata
  · cases h

/-- A directory with one more entry, unless it has one of that name. -/
def Folder.add (folder : Folder) (name : EntryName) (entry : Entry) : Folder :=
  folder.map fun es => if es.any fun e => e.1 = name then es else es ++ [(name, entry)]

theorem Folder.add_of_create {folder folder' : Folder} {name : EntryName} {text : String}
    (h : folder.create name text = .ok folder') :
    folder.add name (.file (.text text)) = folder' := by
  cases folder with
  | error why => cases h
  | ok es =>
    unfold create at h
    simp only at h
    split at h
    · cases h
    · split at h
      · cases h
      · rename_i hnew
        obtain rfl := Except.ok.inj h
        unfold add
        rw [Except.map, if_neg hnew]

namespace Migrator

variable {m : Migrator} {folder : Folder} {name : EntryName} {x y : Migration}

/-! ## Names -/

theorem mem_candidates_iff : name ∈ candidates folder ↔
    hasExtension name = true ∧ ∃ entry, (name, entry) ∈ folder.entries ∧ entry.isFile = true := by
  unfold candidates
  rw [List.mem_mergeSort, List.mem_map]
  constructor
  · rintro ⟨e, he, rfl⟩
    obtain ⟨hmem, hfile⟩ := List.mem_filter.mp he
    rw [Bool.and_eq_true] at hfile
    exact ⟨hfile.1, e.2, hmem, hfile.2⟩
  · rintro ⟨hext, entry, hmem, hfile⟩
    refine ⟨(name, entry), List.mem_filter.mpr ⟨hmem, ?_⟩, rfl⟩
    rw [hext, hfile]
    rfl

theorem pairwise_candidates (folder : Folder) : (candidates folder).Pairwise (· ≤ ·) := by
  refine List.Pairwise.imp (fun {a b} h => of_decide_eq_true h) (List.pairwise_mergeSort ?_ ?_ _)
  · intro a b c hab hbc
    exact decide_eq_true (List.le_trans (of_decide_eq_true hab) (of_decide_eq_true hbc))
  · intro a b
    rw [Bool.or_eq_true, decide_eq_true_eq, decide_eq_true_eq]
    exact List.le_total a b

/-- What is read as the file name of a migration has the extension of migrations. -/
theorem hasExtension_of_parse? {file : String} {r : Version × String}
    (hname : Text.Utf8.decode? name = some file) (h : FileName.parse? file = some r) :
    hasExtension name = true := by
  obtain ⟨digits, hsplit, -⟩ := FileName.parse?_eq_some_iff.mp h
  have hbytes : name = (Text.Utf8.encode digits.toList ++ 0x5F :: Text.Utf8.encode r.2.toList) ++
      Text.Utf8.encode FileName.ending := by
    rw [← Text.Utf8.encode_of_decode? hname, hsplit.toList, Text.Utf8.encode_append,
      Text.Utf8.encode_cons_of_ascii (by decide), Text.Utf8.encode_append, List.append_assoc]
    rfl
  have hending : (Text.Utf8.encode FileName.ending).length = FileName.ending.length := by decide
  unfold hasExtension
  rw [hbytes, Bool.and_eq_true, decide_eq_true_eq, List.isSuffixOf_iff_suffix]
  refine ⟨List.suffix_append _ _, ?_⟩
  simp only [List.length_append, List.length_cons, hending]
  omega

/-- A migration in a file keeps the name of the file. -/
theorem entryName_of_ofEntry (h : m.ofEntry name = .ok x) : x.entryName = name := by
  unfold ofEntry Migration.ofEntry at h
  split at h
  · rename_i fileName hdecode
    unfold Migration.ofFileName at h
    split at h
    · obtain rfl := Except.ok.inj h
      exact Text.Utf8.encode_of_decode? hdecode
    · cases h
  · cases h

/-! ## What is discovered -/

/-- The migrations of a directory in the order of their file names. -/
def listed (m : Migrator) (folder : Folder) : List Migration :=
  (candidates folder).filterMap fun name => (m.ofEntry name).toOption

theorem found_perm_listed : (m.found folder).Perm (m.listed folder) :=
  List.mergeSort_perm _ _

/-- **A migration is discovered** exactly if there is a file of its name that it is the migration
of. -/
theorem mem_found_iff :
    x ∈ m.found folder ↔ x.entryName ∈ candidates folder ∧ m.ofEntry x.entryName = .ok x := by
  rw [found_perm_listed.mem_iff, listed, List.mem_filterMap]
  constructor
  · rintro ⟨name, hname, h⟩
    cases ho : m.ofEntry name with
    | error e =>
      rw [ho] at h
      cases h
    | ok x' =>
      rw [ho] at h
      obtain rfl : x' = x := Option.some.inj h
      rw [entryName_of_ofEntry ho]
      exact ⟨hname, ho⟩
  · rintro ⟨hname, h⟩
    exact ⟨_, hname, by rw [h]; rfl⟩

/-- The version and the name of a migration are read off the name of its file. -/
theorem parse?_of_mem_found (h : x ∈ m.found folder) :
    FileName.parse? x.fileName = some (x.version, x.name) := by
  have hentry := (mem_found_iff.mp h).2
  generalize x.entryName = entryName at hentry
  unfold ofEntry Migration.ofEntry at hentry
  split at hentry
  · unfold Migration.ofFileName at hentry
    split at hentry
    · rename_i hparse
      obtain rfl := Except.ok.inj hentry
      exact hparse
    · cases hentry
  · cases hentry

/-- Names tell migrations apart, whatever is listed beside them. -/
theorem eq_of_entryName {folder' : Folder} (hx : x ∈ m.found folder) (hy : y ∈ m.found folder')
    (h : x.entryName = y.entryName) : x = y := by
  have hxe := (mem_found_iff.mp hx).2
  rw [h, (mem_found_iff.mp hy).2] at hxe
  exact (Except.ok.inj hxe).symm

theorem pairwise_listed (m : Migrator) (folder : Folder) :
    (m.listed folder).Pairwise fun x y => x.entryName ≤ y.entryName := by
  refine List.pairwise_filterMap.mpr ((pairwise_candidates folder).imp ?_)
  intro a b hab x hx y hy
  have hname : ∀ {c : EntryName} {z : Migration}, (m.ofEntry c).toOption = some z →
      z.entryName = c := by
    intro c z hz
    cases ho : m.ofEntry c with
    | error e =>
      rw [ho] at hz
      cases hz
    | ok z' =>
      rw [ho] at hz
      obtain rfl : z' = z := Option.some.inj hz
      exact entryName_of_ofEntry ho
  rw [hname hx, hname hy]
  exact hab

/-- Sorting by version leaves those of one version in the order of their names. -/
theorem filter_found (version : Version) :
    (m.found folder).filter (fun x => x.version = version) =
      (m.listed folder).filter fun x => x.version = version := by
  have hsub : ((m.listed folder).filter fun x => x.version = version).Sublist (m.found folder) := by
    refine List.sublist_mergeSort version_trans version_total ?_ List.filter_sublist
    -- all have the version, so each is in order with each
    refine List.pairwise_of_forall_mem_list fun a ha b hb => decide_eq_true ?_
    rw [of_decide_eq_true (List.mem_filter.mp ha).2, of_decide_eq_true (List.mem_filter.mp hb).2]
    exact Int64.le_refl _
  have hsub' := hsub.filter fun x => decide (x.version = version)
  rw [List.filter_filter] at hsub'
  simp only [Bool.and_self] at hsub'
  exact (hsub'.eq_of_length (found_perm_listed.filter _).length_eq.symm).symm

/-- **The first of a version** has the first file name among all of that version. -/
theorem entryName_le_of_find? {version : Version}
    (hx : ((m.found folder).find? fun x => x.version = version) = some x)
    (hy : y ∈ m.found folder) (hv : y.version = version) : x.entryName ≤ y.entryName := by
  have hy' : y ∈ (m.listed folder).filter fun x => x.version = version :=
    List.mem_filter.mpr ⟨found_perm_listed.mem_iff.mp hy, decide_eq_true hv⟩
  rw [← List.head?_filter, filter_found] at hx
  obtain ⟨rest, hrest⟩ := List.head?_eq_some_iff.mp hx
  have hsorted := (m.pairwise_listed folder).filter fun x => decide (x.version = version)
  rw [hrest] at hsorted hy'
  rcases List.mem_cons.mp hy' with rfl | hy'
  · exact List.le_refl _
  · exact List.rel_of_pairwise_cons hsorted hy'

/-- The order in which migrations are discovered: by their versions, and those of one version by
their file names. -/
def Precedes (x y : Migration) : Prop :=
  x.version < y.version ∨ x.version = y.version ∧ x.entryName ≤ y.entryName

theorem precedes_found (m : Migrator) (folder : Folder) : (m.found folder).Pairwise Precedes := by
  rw [List.pairwise_iff_forall_sublist]
  intro x y hsub
  have hle : x.version ≤ y.version :=
    List.rel_of_pairwise_cons ((m.pairwise_found folder).sublist hsub) (List.mem_singleton_self y)
  by_cases hversion : x.version = y.version
  · -- two of one version stand as they are listed
    have hsame := hsub.filter fun z => decide (z.version = y.version)
    rw [filter_found, List.filter_cons_of_pos (by simpa using hversion),
      List.filter_cons_of_pos (by simp), List.filter_nil] at hsame
    have hlisted := (m.pairwise_listed folder).sublist (hsame.trans List.filter_sublist)
    exact .inr ⟨hversion, List.rel_of_pairwise_cons hlisted (List.mem_singleton_self y)⟩
  · exact .inl (Int64.lt_of_le_of_ne hle hversion)

variable (other : EntryName) (entry : Entry)

theorem mem_candidates_add (h : name ∈ candidates folder) :
    name ∈ candidates (folder.add other entry) := by
  obtain ⟨hext, e, hmem, hfile⟩ := mem_candidates_iff.mp h
  refine mem_candidates_iff.mpr ⟨hext, e, ?_, hfile⟩
  cases folder with
  | error why => exact hmem
  | ok es =>
    change (name, e) ∈ if _ then es else es ++ _
    split
    · exact hmem
    · exact List.mem_append_left _ hmem

/-- What has been discovered is discovered again once a file has been added. -/
theorem mem_found_add (h : x ∈ m.found folder) : x ∈ m.found (folder.add other entry) := by
  obtain ⟨hname, hx⟩ := mem_found_iff.mp h
  exact mem_found_iff.mpr ⟨mem_candidates_add other entry hname, hx⟩

/-- Files that are listed read the same once another has been added. -/
theorem read_add (h : name ∈ candidates folder) :
    (folder.add other entry).read name = folder.read name := by
  obtain ⟨-, e, hmem, -⟩ := mem_candidates_iff.mp h
  cases folder with
  | error why => rfl
  | ok es =>
    have hthere : (es.find? fun e => e.1 = name).isSome = true :=
      List.find?_isSome.mpr ⟨_, hmem, decide_eq_true rfl⟩
    change Folder.read (.ok (if _ then es else es ++ _)) name = _
    split
    · rfl
    · unfold Folder.read
      simp only [List.find?_append]
      rw [Option.or_of_isSome hthere]

end Migrator

end SchemaKit
