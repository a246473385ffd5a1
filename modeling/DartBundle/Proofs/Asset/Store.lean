import DartBundle.Proofs.Asset.Outputs
import DartBundle.Proofs.Asset.Siblings
import DartBundle.Proofs.Build.Locations
import DartBundle.Proofs.FileTree.Access
/-!
This module contains that assets in directories are kept as in a store: what is written is read again, and
all other assets are read as before. Where what is read comes from and why nothing may be read is known for
all ids, and what a write that has failed leaves to be read.
-/

namespace DartBundle

namespace Path

variable {base part relative : String}

def withSlash (base : String) : String :=
  if base.isEmpty || base.toList.getLast? = some '/' then base else base ++ "/"

theorem join_eq (h : isAbsolute part = false) : join base part = withSlash base ++ part := by
  unfold join withSlash
  rw [h]
  simp only [Bool.false_or, Bool.false_eq_true, if_false]
  split <;> rfl

theorem withSlash_append (hpart : '/' ∉ part.toList) (hne : part ≠ "") :
    withSlash (base ++ part) = base ++ part ++ "/" := by
  have hempty : (base ++ part).isEmpty = false := by simp [hne]
  have hslash : namesDirectory (base ++ part) = false :=
    namesDirectory_append (by simpa using hne) hpart
  unfold namesDirectory at hslash
  unfold withSlash
  rw [hempty, hslash]
  rfl

theorem join_join (hpart : '/' ∉ part.toList) (hne : part ≠ "") (habs : isAbsolute relative = false) :
    join (join base part) relative = join base (part ++ "/" ++ relative) := by
  have hjoined : isAbsolute (part ++ "/" ++ relative) = false := by
    rw [String.append_assoc, isAbsolute_append _ (by simpa using hne)]
    exact not_isAbsolute hpart
  rw [join_eq (not_isAbsolute hpart), join_eq habs, join_eq hjoined, withSlash_append hpart hne]
  simp only [String.append_assoc]

theorem not_isAbsolute_intercalate {segment : List Char} {others : List (List Char)}
    (hne : segment ≠ []) (hsegment : '/' ∉ segment) :
    isAbsolute (String.ofList (['/'].intercalate (segment :: others))) = false := by
  obtain ⟨c, cs, rfl⟩ := List.exists_cons_of_ne_nil hne
  unfold isAbsolute
  rw [String.toList_ofList, decide_eq_false_iff_not]
  have hhead : (['/'].intercalate ((c :: cs) :: others)).head? = some c := by
    cases others <;> simp [List.intercalate]
  rw [hhead, Option.some.injEq]
  rintro rfl
  exact hsegment List.mem_cons_self

theorem resolve_eq_join (h : [] ∉ List.splitOn '/' relative.toList) :
    resolve base relative = join base relative := by
  have hrelative : relative = String.ofList (['/'].intercalate (List.splitOn '/' relative.toList)) := by
    rw [List.intercalate_splitOn, String.ofList_toList]
  have hsegments : ∀ segment ∈ List.splitOn '/' relative.toList, '/' ∉ segment :=
    fun _ => Text.not_mem_of_mem_splitOn
  have hne := List.splitOn_ne_nil '/' relative.toList
  unfold resolve
  -- from here on the text is only what its segments are together, and the induction is on these
  generalize List.splitOn '/' relative.toList = segments at h hrelative hsegments hne
  subst hrelative
  induction segments generalizing base with
  | nil => exact absurd rfl hne
  | cons segment rest ih =>
    rw [List.mem_cons, not_or] at h
    obtain ⟨hsegment, hrest⟩ := List.forall_mem_cons.1 hsegments
    rw [List.foldl_cons]
    cases rest with
    | nil => simp [List.intercalate]
    | cons next others =>
      rw [ih h.2 hrest (List.cons_ne_nil _ _), join_join]
      · congr 1
        rw [← String.toList_inj]
        simp [List.intercalate]
      · rwa [String.toList_ofList]
      · rw [Ne, ← String.toList_inj, String.toList_ofList]
        exact Ne.symm h.1
      · have hnext : next ≠ [] := fun hnil => h.2 (hnil ▸ List.mem_cons_self)
        exact not_isAbsolute_intercalate hnext (hrest next List.mem_cons_self)

end Path

namespace AssetDirectories

open FileTree

variable {d : AssetDirectories} {t u : FileTree} {id other : AssetId} {bytes : ByteArray} {l : Location}
  {e : Entry} {places : List Location} {root path : String}

/--
Whether an id denotes a file, which lies at a location.
-/
def Denotes (d : AssetDirectories) (t : FileTree) (id : AssetId) (l : Location) (e : Entry) : Prop :=
  ∃ path, d.sourcePath? id = some path ∧ t.FileAt path l e

theorem canRead_iff : d.canRead t id = true ↔ ∃ l e, d.Denotes t id l e := by
  unfold canRead Denotes
  cases d.sourcePath? id with
  | none => simp
  | some path => simp [isFile_iff]

theorem read_eq_ok_iff : d.read t id = .ok bytes ↔
    ∃ path, d.sourcePath? id = some path ∧ t.read path = .ok bytes := by
  unfold read
  cases d.sourcePath? id with
  | none => simp
  | some path =>
    cases hread : t.read path with
    | ok content => simp [hread]
    | error fault => cases fault <;> simp [hread]

theorem read_eq_notFound_iff (plain : t.Plain) : d.read t id = .error (.assetNotFound id) ↔
    d.sourcePath? id = none ∨ ∃ path, d.sourcePath? id = some path ∧
      (∀ found, t.find path true ≠ .ok found) ∧ ¬ t.Hindered path := by
  unfold read
  cases d.sourcePath? id with
  | none => simp
  | some path =>
    simp only [reduceCtorEq, false_or, Option.some.injEq, exists_eq_left',
      ← FileTree.read_eq_notFound_iff plain]
    cases t.read path with
    | ok content => simp
    | error fault => cases fault <;> simp

theorem canRead_of_read (h : d.read t id = .ok bytes) : d.canRead t id = true := by
  obtain ⟨path, hpath, hread⟩ := read_eq_ok_iff.1 h
  obtain ⟨l, e, hat, -⟩ := FileTree.read_eq_ok_iff.1 hread
  exact canRead_iff.2 ⟨l, e, path, hpath, hat⟩

theorem read_of_canRead (h : d.canRead t id = true)
    (readable : ∀ l e, d.Denotes t id l e → e.isReadable = true) : ∃ bytes, d.read t id = .ok bytes := by
  obtain ⟨l, e, path, hpath, hat⟩ := canRead_iff.1 h
  have hreadable := readable l e ⟨path, hpath, hat⟩
  have hfile := hat.isFile
  unfold Entry.isFile at hfile
  split at hfile
  · next content hkind =>
    exact ⟨content, read_eq_ok_iff.2 ⟨path, hpath, FileTree.read_eq_ok_iff.2 ⟨l, e, hat, hreadable, hkind⟩⟩⟩
  · cases hfile

theorem sourcePath?_atOrBelow (valid : id.validate = .ok ())
    (hroot : d.packages.lookup id.package = some root) :
    ∃ path, d.sourcePath? id = some path ∧ Path.AtOrBelow root path := by
  refine ⟨Path.join root id.path, ?_, ?_⟩
  · unfold sourcePath?
    rw [hroot]
    rfl
  · unfold Path.AtOrBelow Path.place
    rw [Path.steps_join root (AssetId.isAbsolute_path valid), List.foldl_append]
    have hrises : Path.risesAtMost 0 (Path.steps id.path) = true :=
      Path.risesAtMost_of_ne_up (AssetId.ne_up_of_validate valid)
    have hstays : (Path.steps id.path).foldl stepFrom ([] ++ (Path.steps root).foldl stepFrom []) = _ :=
      Path.foldl_of_risesAtMost hrises
    rw [List.nil_append] at hstays
    rw [hstays]
    exact List.suffix_append _ _

theorem Denotes.read_eq (h : d.Denotes t id l e) (confined : ConfinedTo places t u) (plain : t.Plain)
    (hl : l ∉ places) : d.read u id = d.read t id := by
  obtain ⟨path, hpath, hat⟩ := h
  have hat' := confined.toKeeps.fileAt plain (confined.plain plain) hat (confined.get?_file hl hat.get?)
    hat.isFile
  have hsame : u.read path = t.read path := by
    unfold FileTree.read
    rw [(fileAt_iff hat.isFile).1 hat, (fileAt_iff hat'.isFile).1 hat']
  unfold read
  rw [hpath]
  simp only [hsame]

theorem sourcePath?_eq_outputPath (valid : id.validate = .ok ())
    (registered : d.packages.lookup id.package = some (Path.join d.outputDirectory id.package)) :
    d.sourcePath? id = some (d.outputPath id) := by
  unfold sourcePath? outputPath
  rw [registered, Path.resolve_eq_join (AssetId.nil_not_mem_split_of_validate valid)]
  rfl

theorem read_of_write (plain : t.Plain) (h : d.write id bytes t = .ok () u)
    (hpath : d.sourcePath? id = some (d.outputPath id)) :
    d.read u id = .ok bytes ∧ ∀ other l e, d.Denotes t other l e → l ≠ t.locate (d.outputPath id) →
      d.read u other = d.read t other := by
  have hwrites := write_ok plain h
  refine ⟨read_eq_ok_iff.2 ⟨_, hpath, hwrites.read⟩, ?_⟩
  intro other l e hdenotes hl
  exact hdenotes.read_eq hwrites.confined plain (by simpa using hl)

theorem read_of_write_error {fault : Error} (tree : t.IsTree) (h : d.write id bytes t = .error fault u) :
    (∀ other content, d.read t other = .ok content → d.read u other = .ok content) ∧
      ∀ other content, d.read u other = .ok content → d.read t other = .ok content ∨
        ∃ path, d.sourcePath? other = some path ∧ Detours t u path ∧
          t.contentAt (t.locate path) = some content := by
  have hconfined := write_error tree.plain h
  constructor
  · intro other content hread
    obtain ⟨path, hpath, hread⟩ := read_eq_ok_iff.1 hread
    exact read_eq_ok_iff.2 ⟨path, hpath, hconfined.read tree.plain List.not_mem_nil hread⟩
  · intro other content hread
    obtain ⟨path, hpath, hread⟩ := read_eq_ok_iff.1 hread
    rcases hconfined.read_back tree hread with hback | ⟨hdetours, hcontent⟩
    · exact .inl (read_eq_ok_iff.2 ⟨path, hpath, hback⟩)
    · exact .inr ⟨path, hpath, hdetours, hcontent⟩

theorem directories_keep_assets (tree : t.IsTree) (d : AssetDirectories) (id : AssetId) :
    (∀ bytes, d.read t id = .ok bytes → d.canRead t id = true) ∧
    ((∀ l e, d.Denotes t id l e → e.isReadable = true) →
      (d.canRead t id = true ↔ ∃ bytes, d.read t id = .ok bytes)) ∧
    (d.read t id = .error (.assetNotFound id) ↔
      d.sourcePath? id = none ∨ ∃ path, d.sourcePath? id = some path ∧
        (∀ found, t.find path true ≠ .ok found) ∧ ¬ t.Hindered path) ∧
    (id.validate = .ok () →
      (∀ root, d.packages.lookup id.package = some root →
        ∃ path, d.sourcePath? id = some path ∧ Path.AtOrBelow root path) ∧
      (d.packages.lookup id.package = some (Path.join d.outputDirectory id.package) →
        d.sourcePath? id = some (d.outputPath id) ∧
        (∀ bytes u, d.write id bytes t = .ok () u → d.read u id = .ok bytes ∧
          ∀ other l e, d.Denotes t other l e → l ≠ t.locate (d.outputPath id) →
            d.read u other = d.read t other) ∧
        ∀ bytes fault u, d.write id bytes t = .error fault u →
          (∀ other content, d.read t other = .ok content → d.read u other = .ok content) ∧
          ∀ other content, d.read u other = .ok content → d.read t other = .ok content ∨
            ∃ path, d.sourcePath? other = some path ∧ Detours t u path ∧
              t.contentAt (t.locate path) = some content)) := by
  refine ⟨fun bytes => canRead_of_read, ?_, read_eq_notFound_iff tree.plain, fun valid => ⟨?_, ?_⟩⟩
  · intro readable
    exact ⟨fun h => read_of_canRead h readable, fun ⟨bytes, h⟩ => canRead_of_read h⟩
  · intro root hroot
    exact sourcePath?_atOrBelow valid hroot
  · intro registered
    have hpath := sourcePath?_eq_outputPath valid registered
    exact ⟨hpath, fun bytes u h => read_of_write tree.plain h hpath,
      fun bytes fault u h => read_of_write_error tree h⟩

def stocked : FileTree :=
  ((FileTree.empty.create ["o"] .directory 0o755).create ["p", "o"] .directory 0o755).create
    ["x", "p", "o"] (.file ⟨#[1]⟩) 0o644

theorem stocked_isTree : stocked.IsTree :=
  ((isTree_empty.create rfl ⟨_, rfl, rfl⟩ (by simp)).create rfl ⟨_, rfl, rfl⟩ (by simp)).create rfl
    ⟨_, rfl, rfl⟩ (by simp)

theorem stocked_asset_kept :
    (∃ u, write (addPackage ⟨"/o", .empty⟩ "p" "/o/p") ⟨"p", "y/z"⟩ ⟨#[2]⟩ stocked = .ok () u ∧
      read (addPackage ⟨"/o", .empty⟩ "p" "/o/p") u ⟨"p", "y/z"⟩ = .ok ⟨#[2]⟩ ∧
      read (addPackage ⟨"/o", .empty⟩ "p" "/o/p") u ⟨"p", "x"⟩ = .ok ⟨#[1]⟩ ∧
      ¬ stocked.Hindered "/o/p/y/z") ∧
    ∃ fault u, write (addPackage ⟨"/o", .empty⟩ "p" "/o/p") ⟨"p", "x/z"⟩ ⟨#[2]⟩ stocked = .error fault u ∧
      read (addPackage ⟨"/o", .empty⟩ "p" "/o/p") u ⟨"p", "x"⟩ = .ok ⟨#[1]⟩ ∧
      stocked.Hindered "/o/p/x/z" := by
  have hx : read (addPackage ⟨"/o", .empty⟩ "p" "/o/p") stocked ⟨"p", "x"⟩ = .ok ⟨#[1]⟩ := rfl
  constructor
  · obtain ⟨-, -, hmissing, hvalid⟩ := directories_keep_assets stocked_isTree
      (addPackage ⟨"/o", .empty⟩ "p" "/o/p") ⟨"p", "y/z"⟩
    obtain ⟨-, hregistered⟩ := hvalid rfl
    obtain ⟨-, hwritten, -⟩ := hregistered (by decide +kernel)
    have hwrite : write (addPackage ⟨"/o", .empty⟩ "p" "/o/p") ⟨"p", "y/z"⟩ ⟨#[2]⟩ stocked = .ok () _ :=
      Work.eq_ok_of_answer? (by decide +kernel)
    obtain ⟨hread, hothers⟩ := hwritten _ _ hwrite
    refine ⟨_, hwrite, hread, ?_, ?_⟩
    · obtain ⟨l, e, path, hpath, hat⟩ := canRead_iff.1 (canRead_of_read hx)
      rw [hothers _ l e ⟨path, hpath, hat⟩, hx]
      rw [← locate_eq stocked_isTree.plain hat.follow]
      cases hpath
      decide +kernel
    · rcases hmissing.1 rfl with hnone | ⟨path, hpath, -, hfree⟩
      · cases hnone
      · cases hpath
        exact hfree
  · obtain ⟨-, -, hmissing, hvalid⟩ := directories_keep_assets stocked_isTree
      (addPackage ⟨"/o", .empty⟩ "p" "/o/p") ⟨"p", "x/z"⟩
    obtain ⟨-, hregistered⟩ := hvalid rfl
    obtain ⟨-, -, hfailed⟩ := hregistered (by decide +kernel)
    have hwrite : ∃ fault, write (addPackage ⟨"/o", .empty⟩ "p" "/o/p") ⟨"p", "x/z"⟩ ⟨#[2]⟩ stocked =
        .error fault _ :=
      Work.exists_error_of_answer? (by decide +kernel)
    obtain ⟨fault, hwrite⟩ := hwrite
    refine ⟨fault, _, hwrite, (hfailed _ _ _ hwrite).1 _ _ hx, ?_⟩
    by_contra hfree
    have hfault : stocked.find "/o/p/x/z" true = .error .notADirectory := rfl
    have hread := hmissing.2 (.inr ⟨"/o/p/x/z", rfl, by rw [hfault]; nofun, hfree⟩)
    cases hread

def barred : FileTree :=
  FileTree.empty.create ["a"] (.file .empty) 0

theorem barred_isTree : barred.IsTree :=
  isTree_empty.create rfl ⟨_, rfl, rfl⟩ (by simp)

def overlong : String :=
  String.ofList (List.replicate 256 'x')

theorem isName_overlong : Path.IsName overlong where
  nonempty := by decide +kernel
  separate := by
    unfold overlong
    simp only [String.toList_ofList, List.mem_replicate]
    decide
  ne_here := by decide +kernel
  ne_up := by decide +kernel

theorem hindered_overlong : FileTree.empty.Hindered (pathText [overlong]) := by
  have hsteps : Path.steps (pathText [overlong]) = [] ++ [overlong] :=
    steps_pathText (named_cons.2 ⟨isName_overlong, nofun⟩)
  have hstart : FileTree.empty.start (pathText [overlong]) = [] :=
    start_of_absolute (isAbsolute_pathText _)
  refine .onTheWay hsteps rfl (e := Entry.root) ?_ (.inr (.inr (by decide +kernel)))
  rw [hstart]
  rfl

def roundabout : AssetDirectories :=
  (addPackage ⟨"/o", .empty⟩ "p" "/o/p").addPackage "q" "/o/p/new/.."

theorem assets_not_kept :
    (barred.IsTree ∧ canRead (addPackage ⟨"/o", .empty⟩ "p" "/") barred ⟨"p", "a"⟩ = true ∧
      ∀ bytes, read (addPackage ⟨"/o", .empty⟩ "p" "/") barred ⟨"p", "a"⟩ ≠ .ok bytes) ∧
    ((∀ l e, FileTree.empty.get? l = some e → e.isDirectory = true) ∧
      sourcePath? (addPackage ⟨"/o", .empty⟩ "p" "/") ⟨"p", overlong⟩ = some (pathText [overlong]) ∧
      (∀ found, FileTree.empty.find (pathText [overlong]) true ≠ .ok found) ∧
      read (addPackage ⟨"/o", .empty⟩ "p" "/") .empty ⟨"p", overlong⟩ ≠
        .error (.assetNotFound ⟨"p", overlong⟩)) ∧
    (stocked.IsTree ∧ AssetId.validate ⟨"p", "new/\x00"⟩ = .ok () ∧
      roundabout.packages.lookup "p" = some (Path.join roundabout.outputDirectory "p")) ∧
    ∃ fault u, roundabout.write ⟨"p", "new/\x00"⟩ .empty stocked = .error fault u ∧
      (∀ bytes, roundabout.read stocked ⟨"q", "x"⟩ ≠ .ok bytes) ∧
      roundabout.read u ⟨"q", "x"⟩ = .ok ⟨#[1]⟩ := by
  have hsource : sourcePath? (addPackage ⟨"/o", .empty⟩ "p" "/") ⟨"p", overlong⟩ =
      some (pathText [overlong]) := by
    have hroot : (addPackage ⟨"/o", .empty⟩ "p" "/").packages.lookup "p" = some (pathText []) := by
      decide +kernel
    unfold sourcePath?
    rw [hroot, Option.map_some, join_pathText (l := []) nofun isName_overlong.separate]
  refine ⟨⟨barred_isTree, by decide +kernel, ?_⟩, ⟨?_, hsource, ?_, ?_⟩,
    ⟨stocked_isTree, rfl, by decide +kernel⟩, ?_⟩
  · have h : read (addPackage ⟨"/o", .empty⟩ "p" "/") barred ⟨"p", "a"⟩ = .error (.file .permissionDenied) :=
      rfl
    rw [h]
    nofun
  · intro l e hget
    cases l with
    | nil =>
      cases hget
      rfl
    | cons name above => cases hget
  · obtain ⟨fault, -, hfault⟩ := (hindered_iff plain_empty).1 hindered_overlong
    rw [hfault]
    nofun
  · intro hmissing
    have hfree := (read_eq_notFound_iff plain_empty).1 hmissing
    rw [hsource] at hfree
    rcases hfree with hnone | ⟨path, hpath, -, hfree⟩
    · cases hnone
    · cases hpath
      exact hfree hindered_overlong
  · have hfailed : ∃ fault, roundabout.write ⟨"p", "new/\x00"⟩ .empty stocked = .error fault _ :=
      Work.exists_error_of_answer? (by decide +kernel)
    obtain ⟨fault, hwrite⟩ := hfailed
    refine ⟨fault, _, hwrite, ?_, eq_ok_of_toOption (by decide +kernel)⟩
    have h : roundabout.read stocked ⟨"q", "x"⟩ = .error (.assetNotFound ⟨"q", "x"⟩) := rfl
    rw [h]
    nofun

end AssetDirectories

end DartBundle
