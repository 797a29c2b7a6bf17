import Mathlib
import QuadMosaic.Proofs.Output
import QuadMosaic.Proofs.Paths

/-!
# The definition of a surface names its texture

For one viewer two files stand beside a pyramid: the description of a virtual texture, and the
definition of a surface that names the texture file.  Main statement:
`Sidecar.surface_names_texture`.

The texture file is the output name with an ending, and the name in the definition is the last
component of the output name with the same ending.  These are the same when the output name ends in
its last component, and not when a slash or a single dot comes after it (`Path.name_append_iff`).
The directory is the same for all endings, in the text of the paths and where they lead to.
-/

namespace QuadMosaic

/-! ## Files in one directory -/

namespace Files

variable {files : Files}

/-- Files named by a text and two endings are in one directory, if there are such files. -/
theorem beside_of_isFile {s e e' : String} (he : Path.IsEnding e) (he' : Path.IsEnding e')
    (h : files.isFile (Path.ofString (s ++ e)) = true)
    (h' : files.isFile (Path.ofString (s ++ e')) = true) :
    files.Beside (Path.ofString (s ++ e)) (Path.ofString (s ++ e')) := by
  rw [Path.ofString_append he] at h ⊢
  rw [Path.ofString_append he'] at h' ⊢
  obtain ⟨place, hplace⟩ := exists_of_isFile h
  obtain ⟨place', hplace'⟩ := exists_of_isFile h'
  obtain ⟨directory, hwalk, hin⟩ :=
    exists_directory_of_locate hplace rfl (he.append_ne (by decide) _)
  obtain ⟨directory', hwalk', hin'⟩ :=
    exists_directory_of_locate hplace' rfl (he'.append_ne (by decide) _)
  -- both walks go through the same components from the same root
  obtain rfl : directory = directory' := Except.ok.inj (hwalk.symm.trans hwalk')
  subst hin hin'
  refine ⟨_, _, hplace, hplace', ?_, ?_, ?_⟩
  · simp [Path.parent]
  · simp [Path.name]
  · simp [Path.name]

end Files

namespace Sidecar

/-! ## What a definition names -/

/-- The definition of a surface that shows a texture file. -/
def definition (title moduleName texture : String) : String :=
  lines ["AltSurface \"" ++ title ++ "\" \"" ++ moduleName ++ "\"", "\x7b",
    "    Texture \"" ++ texture ++ "\"", "\x7d"]

theorem surfaceText_eq (moduleName : Json) (title : String) :
    surfaceText moduleName title = definition title moduleName.display (title ++ ".ctx") := by
  have hshown : "    Texture \"" ++ title ++ ".ctx\"" =
      "    Texture \"" ++ (title ++ ".ctx") ++ "\"" := by
    rw [← String.toList_inj]
    simp
  rw [surfaceText, definition, hshown]

/-- The texture file that a definition names: the third of its texts in quotes, after the word for
it. -/
def textureOf? (text : String) : Option String :=
  match text.toList.splitOn '"' with
  | [_, _, _, _, key, texture, _] =>
    if key = "\n\x7b\n    Texture ".toList then some (String.ofList texture) else none
  | _ => none

/-- A definition without quotes within its texts names the texture it was made for. -/
theorem textureOf?_definition {title moduleName texture : String} (htitle : '"' ∉ title.toList)
    (hmodule : '"' ∉ moduleName.toList) (htexture : '"' ∉ texture.toList) :
    textureOf? (definition title moduleName texture) = some texture := by
  have hruns : (definition title moduleName texture).toList = ['"'].intercalate
      ["AltSurface ".toList, title.toList, " ".toList, moduleName.toList,
        "\n\x7b\n    Texture ".toList, texture.toList, "\n\x7d\n".toList] := by
    simp [definition, lines, String.join]
  have hquotes : ∀ run ∈ ["AltSurface ".toList, title.toList, " ".toList, moduleName.toList,
      "\n\x7b\n    Texture ".toList, texture.toList, "\n\x7d\n".toList], '"' ∉ run := by
    simp [htitle, hmodule, htexture]
  rw [textureOf?, hruns, List.splitOn_intercalate _ hquotes (List.cons_ne_nil _ _)]
  simp

/-! ## The files of a surface -/

variable {job : TileJob} {s : String} {tree : TileTree} {files files' : Files}
  {written : List (String × Path)}

/-- The files of a surface with their texts. -/
def surfaceDocuments (job : TileJob) (moduleName : Json) (title : String) : List (Path × String) :=
  [(job.path ".ctx", virtualTextureText title job), (job.path ".ssc", surfaceText moduleName title)]

theorem title_eq (h : job.outputName = .str s) : title job = .ok (Path.ofString s).name := by
  rw [title, h]

theorem path_eq (h : job.outputName = .str s) (ending : String) :
    job.path ending = Path.ofString (s ++ ending) := by
  rw [TileJob.path, h]
  rfl

/-- The files of a surface are written exactly when their documents can be. -/
theorem emit_celestia_eq_ok_iff (h : job.outputName = .str s) (moduleName : Json) :
    emit (.celestia moduleName) job tree files = .ok written files' ↔
      written = [("celestia_ctx", job.path ".ctx"), ("celestia_ssc", job.path ".ssc")] ∧
      files.writeAll (surfaceDocuments job moduleName (Path.ofString s).name) = .ok files' := by
  constructor
  · intro hemit
    obtain ⟨title, htitle, hafter⟩ := Writing.exists_of_ofExcept_bind hemit
    obtain rfl := Except.ok.inj ((title_eq h).symm.trans htitle)
    obtain ⟨mid, htexture, hafter⟩ := Writing.exists_of_write_bind hafter
    obtain ⟨mid', hsurface, hafter⟩ := Writing.exists_of_write_bind hafter
    cases hafter
    exact ⟨rfl, Files.writeAll_append (Files.writeAll_singleton.trans htexture)
      (Files.writeAll_singleton.trans hsurface)⟩
  · rintro ⟨rfl, hwrite⟩
    unfold Files.writeAll surfaceDocuments at hwrite
    rw [List.foldlM_cons] at hwrite
    obtain ⟨mid, htexture, hwrite⟩ := exists_of_bind_eq_ok hwrite
    rw [List.foldlM_cons] at hwrite
    obtain ⟨mid', hsurface, hwrite⟩ := exists_of_bind_eq_ok hwrite
    cases hwrite
    have htitle : Writing.ofExcept (title job) files = .ok (Path.ofString s).name files := by
      rw [title_eq h]
      rfl
    simp only [emit, Action.bind_of_eq_ok htitle,
      Action.bind_of_eq_ok (Writing.write_eq_ok htexture),
      Action.bind_of_eq_ok (Writing.write_eq_ok hsurface)]
    rfl

theorem isEnding_ctx : Path.IsEnding ".ctx" := ⟨by decide, by decide⟩

theorem isEnding_ssc : Path.IsEnding ".ssc" := ⟨by decide, by decide⟩

/-- The file that the definition of a surface names is the texture file beside it.

Both files are written exactly when their texts can be.  They then lie in one directory under names
of their own, and hold their texts.  The one is a definition that names a texture; as long as no
quote in the title or the name of the module ends a text early, the texture can be read off between
the quotes.  It is the last component of the path of the other file exactly when the output name
does not go on after its own last component. -/
theorem surface_names_texture (hname : job.outputName = .str s) (moduleName : Json)
    (tree : TileTree) (files files' : Files) :
    ((∃ written, emit (.celestia moduleName) job tree files = .ok written files') ↔
      files.writeAll (surfaceDocuments job moduleName (Path.ofString s).name) = .ok files') ∧
    ∀ written, emit (.celestia moduleName) job tree files = .ok written files' →
      ∃ texture surface : Path, ∃ named : String,
        written = [("celestia_ctx", texture), ("celestia_ssc", surface)] ∧
        texture.parent = surface.parent ∧ files'.Beside texture surface ∧
        files'.readText texture = .ok (virtualTextureText (Path.ofString s).name job) ∧
        files'.readText surface =
          .ok (definition (Path.ofString s).name moduleName.display named) ∧
        ('"' ∉ (Path.ofString s).name.toList → '"' ∉ moduleName.display.toList →
          textureOf? (definition (Path.ofString s).name moduleName.display named) = some named) ∧
        (named = texture.name ↔ ¬ Path.Trails s) := by
  have hpath := path_eq hname
  constructor
  · simp only [emit_celestia_eq_ok_iff hname, exists_eq_left]
  · intro written hemit
    obtain ⟨rfl, hwrite⟩ := (emit_celestia_eq_ok_iff hname moduleName).1 hemit
    unfold surfaceDocuments at hwrite
    have hwrote := Files.wrote_of_writeAll hwrite
    have htexture : files'.isFile (job.path ".ctx") = true :=
      hwrote.found (_, _) List.mem_cons_self
    have hsurface : files'.isFile (job.path ".ssc") = true :=
      hwrote.found (_, _) (List.mem_cons_of_mem _ List.mem_cons_self)
    rw [hpath] at htexture hsurface
    have hbeside := Files.beside_of_isFile isEnding_ctx isEnding_ssc htexture hsurface
    have hnames : (Path.ofString (s ++ ".ctx")).name ≠ (Path.ofString (s ++ ".ssc")).name := by
      rw [Path.name_append isEnding_ctx, Path.name_append isEnding_ssc, ne_eq,
        String.append_right_inj]
      decide
    rw [← hpath, ← hpath] at hbeside hnames
    obtain ⟨hreads, hreads'⟩ := hwrote.readText_pair (hbeside.locate_ne hnames)
    rw [surfaceText_eq] at hreads'
    refine ⟨_, _, _, rfl, ?_, hbeside, hreads, hreads', ?_, ?_⟩
    · rw [hpath, hpath, Path.parent_append isEnding_ctx, Path.parent_append isEnding_ssc]
    · intro htitle hmodule
      refine textureOf?_definition htitle hmodule ?_
      rw [String.toList_append, List.mem_append, not_or]
      exact ⟨htitle, by decide⟩
    · rw [hpath]
      exact Path.name_append_iff isEnding_ctx

/-- A pyramid of two levels under an output name. -/
def twoLevelJob (outputName : String) : TileJob where
  outputName := .str outputName
  profile := .celestia
  extent := ⟨0, 0, 512, 512⟩
  crop := ⟨0, 0, 512, 256⟩
  tileSize := 256
  fileType := "png"

/-- What a writer answers for a pyramid of two levels. -/
def twoLevels : TileTree := ⟨.int 2, "png", 3, []⟩

/-- The output name has two components, and ends in the second. -/
theorem surface_names_texture_of_two_components :
    (twoLevelJob "out/mars").outputName = .str "out/mars" ∧ ¬ Path.Trails "out/mars" ∧
      ∃ files' texture surface,
        emit (.celestia (.str "Sol/Mars")) (twoLevelJob "out/mars") twoLevels {} =
          .ok [("celestia_ctx", texture), ("celestia_ssc", surface)] files' ∧
        files'.Beside texture surface ∧
        files'.readText surface = .ok (definition "mars" "Sol/Mars" texture.name) ∧
        textureOf? (definition "mars" "Sol/Mars" texture.name) = some texture.name := by
  have hname : (twoLevelJob "out/mars").outputName = .str "out/mars" := rfl
  have htrails : ¬ Path.Trails "out/mars" := by decide
  have htitle : (Path.ofString "out/mars").name = "mars" := by decide
  obtain ⟨files', hwrite⟩ : ∃ files', Files.writeAll {}
    (surfaceDocuments (twoLevelJob "out/mars") (.str "Sol/Mars") (Path.ofString "out/mars").name) =
      .ok files' := ⟨_, rfl⟩
  obtain ⟨hwritten, hall⟩ := surface_names_texture hname (.str "Sol/Mars") twoLevels {} files'
  obtain ⟨written, hemit⟩ := hwritten.2 hwrite
  obtain ⟨texture, surface, named, rfl, -, hbeside, -, hreads, hread, hsame⟩ := hall written hemit
  obtain rfl := hsame.2 htrails
  rw [htitle] at hreads hread
  exact ⟨hname, htrails, files', texture, surface, hemit, hbeside, hreads,
    hread (by decide) (by decide)⟩

/-- With a slash at its end the output name gives the texture file a name of the ending alone, and
the definition names a file that is not there. -/
theorem surface_names_absent_texture :
    ∃ files' texture surface,
      emit (.celestia (.str "Sol/Mars")) (twoLevelJob "out/") twoLevels {} =
        .ok [("celestia_ctx", texture), ("celestia_ssc", surface)] files' ∧
      texture.name = ".ctx" ∧
      files'.readText surface = .ok (definition "out" "Sol/Mars" "out.ctx") ∧
      textureOf? (definition "out" "Sol/Mars" "out.ctx") = some "out.ctx" ∧
      files'.isFile { surface with parts := surface.parent.parts ++ ["out.ctx"] } = false :=
  ⟨_, ⟨"", ["out", ".ctx"]⟩, ⟨"", ["out", ".ssc"]⟩, rfl, rfl, rfl,
    textureOf?_definition (by decide) (by decide) (by decide), rfl⟩

end Sidecar

end QuadMosaic
