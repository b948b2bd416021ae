import Mathlib.Logic.Function.Basic
import Ssam.Lib.Calls
import Ssam.Package.VerityGeometry
import Ssam.Utils

/-!
# Wrapping an Image Twice

What is wrapped is found through the workspace: `pkgfs` in it is a directory, of which an
image is made in the workspace first, or a link to an image that lies somewhere else.
The image is handed to `veritysetup`, which puts the hash area behind it, and the size the
image had before is recorded in the package.

An image that is linked is handed on itself, not a copy in the workspace. So the first
package that is made of it leaves it with a hash area at its end, and the next counts that
for data. `wrap_repeatable_iff` says that this is so of every image: wrapping twice leaves
the image as it is only where it never gets as far as a format that succeeds.

What is relied on of `veritysetup` is `Appends`.

## Main definitions

* `World`: What `pkgfs` is, and what lies at the paths outside of it.
* `WrapCall`, `WrapHost`: The calls that are made, and what they are answered.
* `preparePkgfs`, `buildImage`, `wrapRun`: A run of the tool.
* `WrapsImage`: The run is one on an image outside of the workspace.
* `Formats`: It gets as far as a format that succeeds.
* `Repeatable`: A second run makes the same of the same image.

## Theorems

* `preparePkgfs_spec`: The link to the image, and when it is made.
* `formatImage_node`: What becomes of the image while it is formatted.
* `wrapRun_node_iff`: A run leaves the image as it is unless it formats it.
* `wrap_repeatable_iff`: So do two.
* `second_wrap_differs`: An image of two blocks is one of four when it is wrapped again.
-/

namespace Ssam

namespace Package

open Lib

inductive ImageType where
  | ext4
  | erofs
  | erofsLz4
  | erofsLz4hc
  deriving DecidableEq

def ImageType.fileName : ImageType → String
  | .ext4 => "pkgfs.ext4"
  | .erofs => "pkgfs.erofs"
  | .erofsLz4 => "pkgfs.erofs-lz4"
  | .erofsLz4hc => "pkgfs.erofs-lz4hc"

inductive OciArchitecture where
  | arm64
  | amd64
  deriving DecidableEq

/-- What `pkgfs` is in the workspace. -/
inductive PkgfsEntry where
  | missing
  /-- A link, with the path it leads to. -/
  | symlink (target : String)
  | directory
  | file
  deriving DecidableEq

/-- What lies at a path. -/
inductive Node where
  | file (f : RegularFile)
  | directory
  | other

structure World where
  pkgfs : PkgfsEntry
  node : String → Option Node

/-- The arguments of a run, with the path of its workspace. -/
structure WrapArgs where
  workspace : String
  prepare : Option String
  pkgfsSrc : Option String
  srcOciArch : Option OciArchitecture
  privateKeyFile : Option String
  pkgfsType : Option ImageType

namespace WrapArgs

def pkgfs (args : WrapArgs) : String := joinPath args.workspace "pkgfs"

def intermediateDir (args : WrapArgs) : String := joinPath args.workspace "intermediate"

end WrapArgs

/-- A call of a run, with the type of its answer. -/
inductive WrapCall : Type → Type where
  | pkgfsEntry : WrapCall PkgfsEntry
  | nodeAt (path : String) : WrapCall (Option Node)
  | removePkgfs : WrapCall (Except Error Unit)
  | extractRootfs (src : String) (arch : OciArchitecture) : WrapCall (Except Error Unit)
  | canonicalize (path : String) : WrapCall (Except Error String)
  | symlinkPkgfs (target : String) : WrapCall (Except Error Unit)
  | createPkgfs : WrapCall (Except Error Unit)
  /-- Write the configuration files that are not there yet. -/
  | prepareWorkspace (name : String) : WrapCall (Except Error Unit)
  | prepareIntermediateDir : WrapCall (Except Error Unit)
  /-- Make an image of a directory. -/
  | createImage (src dest : String) (imageType : ImageType) : WrapCall (Except Error Unit)
  | openImage (path : String) : WrapCall (Except Error RegularFile)
  | veritysetup (imagePath : String) (args : List String) : WrapCall (Except Error FormatOutput)
  /-- Read the configuration, and write the package. -/
  | packageFile (imagePath : String) (info : PackageFsVerityInfo) : WrapCall (Except Error Unit)

/-- A program over these calls. -/
abbrev WrapProg := Prog WrapCall Error

def supportedContainerTransports : List String :=
  ["docker://", "docker-daemon:", "docker-archive:", "oci-archive:", "oci:"]

def isContainerTransport (src : String) : Bool :=
  supportedContainerTransports.any fun start => start.toList.isPrefixOf src.toList

/-- Let `pkgfs` be the source that is given. -/
def placeSource (args : WrapArgs) (src : String) : WrapProg Unit :=
  if isContainerTransport src then
    Prog.try_ (.extractRootfs src (args.srcOciArch.getD .arm64))
  else do
    let target ← (Prog.try_ (.canonicalize src)).context
      s!"Failed to determine package filesystem source - {src.quote}"
    (Prog.try_ (.symlinkPkgfs target)).context
      (s!"Failed to create symlink for package filesystem source: {target.quote} -> " ++
        args.pkgfs.quote)

/-- The `prepare` of the package file system. -/
def preparePkgfs (args : WrapArgs) : WrapProg Unit :=
  match args.pkgfsSrc with
  | some src => do
      let entry ← Prog.ask .pkgfsEntry
      if entry = .missing then placeSource args src
      else do
        (Prog.try_ .removePkgfs).context s!"Failed to remove pkgfs: {args.pkgfs.quote}"
        placeSource args src
  | none => do
      let entry ← Prog.ask .pkgfsEntry
      let there ←
        match entry with
        | .missing => pure false
        | .symlink target => do
            let node ← Prog.ask (.nodeAt target)
            pure node.isSome
        | .directory => pure true
        | .file => pure true
      if there then pure ()
      else do
        (Prog.try_ .createPkgfs).context
          s!"Failed to create pkgfs directory: {args.pkgfs.quote}"

/-- The source of the image, and what it is. -/
def getPkgfsSrc (args : WrapArgs) : WrapProg (String × Node) := do
  let entry ← Prog.ask .pkgfsEntry
  match entry with
  | .missing => Prog.fail [s!"pkgfs - \"{args.pkgfs}\" does not exist"]
  | .symlink target => do
      let node ← Prog.ask (.nodeAt target)
      match node with
      | none => Prog.fail [s!"pkgfs - \"{args.pkgfs}\" does not exist"]
      | some node => pure (target, node)
  | .directory => pure (args.pkgfs, .directory)
  | .file => Prog.fail [s!"pkgfs - \"{args.pkgfs}\" is not valid!"]

/-- The path of the image. A source that is a file is the image. -/
def buildImage (args : WrapArgs) : WrapProg String := do
  let (src, node) ← getPkgfsSrc args
  match node with
  | .file _ => pure src
  | .directory => do
      let imageType := args.pkgfsType.getD .erofsLz4hc
      let dest := joinPath args.intermediateDir imageType.fileName
      Prog.try_ (.createImage src dest imageType)
      pure dest
  | .other =>
      Prog.fail [s!"Package filesystem source is neither a file nor a directory: {src}"]

/-- The last component of the path, if it is a name. -/
def fileName (path : String) : Option String :=
  match (components path).getLast? with
  | some (.normal segment) => some segment
  | _ => none

def rootHashPath (imageFile intermediateDir : String) : Except Error String :=
  match fileName imageFile with
  | none => .error [s!"Unable to get filename from pkgfs image file: {imageFile}"]
  | some name => .ok (joinPath intermediateDir (name ++ ".root_hash"))

section Run

variable (decoders : SuperBlockDecoders)

/-- Put the hash area behind the image, with its superblock. -/
def formatImage (image rootHash : String) : WrapProg PackageFsVerityInfo := do
  let opened ← Prog.ask (.openImage image)
  let f ← Prog.done (FormatVerity.new decoders image opened (some rootHash) true [])
  let output ← Prog.ask (.veritysetup image f.args)
  Prog.done (f.run decoders.verity fun _ => output)

/-- Write the package of the image. The type of its file system is read anew. -/
def packageImage (image : String) (info : PackageFsVerityInfo) : WrapProg Unit := do
  let opened ← Prog.ask (.openImage image)
  let _superblock ← Prog.done (FileSystemSuperBlockBroker.new decoders image opened)
  Prog.try_ (.packageFile image info)

/-- What a run does once `pkgfs` is prepared. -/
def wrapPrepared (args : WrapArgs) : WrapProg (Option PackageFsVerityInfo) :=
  match args.prepare with
  | some name => do
      Prog.try_ (.prepareWorkspace name)
      pure none
  | none => do
      Prog.try_ .prepareIntermediateDir
      if args.privateKeyFile.isNone then Prog.fail ["Private key file path is required"]
      else do
        let image ← buildImage args
        let rootHash ← Prog.done (rootHashPath image args.intermediateDir)
        let info ← formatImage decoders image rootHash
        packageImage decoders image info
        pure (some info)

/-- A run of the tool, and the verity metadata of the package it has made. -/
def wrapRun (args : WrapArgs) : WrapProg (Option PackageFsVerityInfo) := do
  preparePkgfs args
  wrapPrepared decoders args

end Run

/-- What the calls of a run are answered. -/
structure WrapHost where
  removePkgfs : Except Error Unit
  extractRootfs : Except Error Unit
  canonicalize : String → Except Error String
  symlinkPkgfs : Except Error Unit
  createPkgfs : Except Error Unit
  prepareWorkspace : Except Error Unit
  prepareIntermediateDir : Except Error Unit
  createImage : Except Error RegularFile
  /-- What `veritysetup` makes of a file. -/
  veritysetup : List String → RegularFile → Except Error FormatOutput
  packageFile : Except Error Unit

/-- What the command leaves at the path of the image. -/
def World.leave (w : World) (path : String) : Except Error FormatOutput → World
  | .error _ => w
  | .ok output =>
      match output.image with
      | .error _ => w
      | .ok after => { w with node := Function.update w.node path (some (.file after)) }

/-- Answer a call. A link that is removed leaves what it leads to. -/
def WrapHost.serve (h : WrapHost) {α : Type} (w : World) : WrapCall α → World × α
  | .pkgfsEntry => (w, w.pkgfs)
  | .nodeAt path => (w, w.node path)
  | .removePkgfs => (if h.removePkgfs.isOk then { w with pkgfs := .missing } else w, h.removePkgfs)
  | .extractRootfs _ _ =>
      (if h.extractRootfs.isOk then { w with pkgfs := .directory } else w, h.extractRootfs)
  | .canonicalize path => (w, h.canonicalize path)
  | .symlinkPkgfs target =>
      (if h.symlinkPkgfs.isOk then { w with pkgfs := .symlink target } else w, h.symlinkPkgfs)
  | .createPkgfs =>
      (if h.createPkgfs.isOk then { w with pkgfs := .directory } else w, h.createPkgfs)
  | .prepareWorkspace _ => (w, h.prepareWorkspace)
  | .prepareIntermediateDir => (w, h.prepareIntermediateDir)
  | .createImage _ dest _ =>
      match h.createImage with
      | .error e => (w, .error e)
      | .ok image => ({ w with node := Function.update w.node dest (some (.file image)) }, .ok ())
  | .openImage path =>
      match w.node path with
      | some (.file image) => (w, .ok image)
      | _ => (w, .error ["No such file or directory (os error 2)"])
  | .veritysetup path args =>
      match w.node path with
      | some (.file image) => (w.leave path (h.veritysetup args image), h.veritysetup args image)
      | _ => (w, .error ["No such file or directory (os error 2)"])
  | .packageFile _ _ => (w, h.packageFile)

/-- The run wraps the image at this path, which is given as the source or linked already. -/
structure WrapsImage (h : WrapHost) (args : WrapArgs) (w : World) (imagePath : String) :
    Prop where
  wraps : args.prepare = none
  source : args.pkgfsSrc = none ∧ w.pkgfs = .symlink imagePath ∨
    ∃ src, args.pkgfsSrc = some src ∧ isContainerTransport src = false ∧
      h.canonicalize src = .ok imagePath

/-- The link to the image is there or can be made. -/
def Links (h : WrapHost) (args : WrapArgs) (w : World) : Prop :=
  args.pkgfsSrc.isSome = true →
    (w.pkgfs ≠ .missing → h.removePkgfs = .ok ()) ∧ h.symlinkPkgfs = .ok ()

/-- The run gets as far as a format of the image that succeeds. -/
structure Formats (decoders : SuperBlockDecoders) (h : WrapHost) (args : WrapArgs) (w : World)
    (imagePath : String) (image : RegularFile) : Prop where
  links : Links h args w
  intermediateDir : h.prepareIntermediateDir = .ok ()
  privateKey : args.privateKeyFile.isSome = true
  format : ∃ rootHash f output, rootHashPath imagePath args.intermediateDir = .ok rootHash ∧
    FormatVerity.new decoders imagePath (.ok image) (some rootHash) true [] = .ok f ∧
    h.veritysetup f.args image = .ok output ∧ output.success = true

/-- What is relied on of `veritysetup` for an image: a format that succeeds puts a hash
    area behind it, at the offset that is asked for, and one that fails puts none. -/
structure Appends (decoders : SuperBlockDecoders) (h : WrapHost) (imagePath : String)
    (image : RegularFile) : Prop where
  success : ∀ {rootHash f output},
    FormatVerity.new decoders imagePath (.ok image) (some rootHash) true [] = .ok f →
    h.veritysetup f.args image = .ok output → output.success = true →
      ∃ after area, output.image = .ok after ∧ area ≠ [] ∧ after.bytes = image.bytes ++
        List.replicate (f.hashOffset.toNat - image.bytes.length) 0 ++ area
  failure : ∀ {rootHash f output},
    FormatVerity.new decoders imagePath (.ok image) (some rootHash) true [] = .ok f →
    h.veritysetup f.args image = .ok output → output.success = false → output.image = .ok image

section Effects

variable {decoders : SuperBlockDecoders} {h : WrapHost} {args : WrapArgs} {w : World}
  {imagePath : String} {image : RegularFile}

/-- A new link to the image. -/
theorem placeSource_spec (args : WrapArgs) {src : String} (hsrc : isContainerTransport src = false)
    (hcanonical : h.canonicalize src = .ok imagePath) (w : World) :
    ((placeSource args src).eval h.serve w).1.node = w.node ∧
      (((placeSource args src).eval h.serve w).2 = .ok () ↔ h.symlinkPkgfs = .ok ()) ∧
      (h.symlinkPkgfs = .ok () →
        ((placeSource args src).eval h.serve w).1.pkgfs = .symlink imagePath) := by
  rw [placeSource, if_neg (Bool.eq_false_iff.mp hsrc)]
  simp only [Prog.bind_eq, Prog.context, Prog.eval_bind, Prog.eval_mapError, Prog.eval_try_,
    WrapHost.serve, hcanonical, mapError_ok]
  cases h.symlinkPkgfs with
  | ok u => exact ⟨rfl, iff_of_true rfl rfl, fun _ => rfl⟩
  | error e => exact ⟨rfl, iff_of_false nofun nofun, nofun⟩

/-- Once it is prepared, `pkgfs` is the link to the image. -/
theorem preparePkgfs_spec (hwraps : WrapsImage h args w imagePath)
    (himage : w.node imagePath = some (.file image)) :
    ((preparePkgfs args).eval h.serve w).1.node = w.node ∧
      (((preparePkgfs args).eval h.serve w).2 = .ok () ↔ Links h args w) ∧
      (Links h args w →
        ((preparePkgfs args).eval h.serve w).1.pkgfs = .symlink imagePath) := by
  unfold preparePkgfs Links
  rcases hwraps.source with ⟨hnone, hlink⟩ | ⟨src, hsrc, htransport, hcanonical⟩
  · -- The link is there, and leads to a file.
    rw [hnone]
    simp only [Prog.bind_eq, Prog.eval_bind, Prog.eval_ask, WrapHost.serve, hlink, himage,
      Prog.pure_eq, Prog.eval_done, Option.isSome_some, if_true]
    exact ⟨trivial, iff_of_true trivial nofun, fun _ => trivial⟩
  · rw [hsrc]
    simp only [Prog.bind_eq, Prog.eval_bind, Prog.eval_ask, WrapHost.serve, Option.isSome_some,
      forall_const]
    by_cases hmissing : w.pkgfs = .missing
    · rw [if_pos hmissing]
      rcases placeSource_spec args htransport hcanonical w with ⟨hnode, hok, hlink⟩
      exact ⟨hnode, hok.trans (and_iff_right fun hne => absurd hmissing hne).symm,
        fun hlinks => hlink hlinks.2⟩
    · rw [if_neg hmissing]
      simp only [Prog.context, Prog.eval_bind, Prog.eval_mapError, Prog.eval_try_, WrapHost.serve]
      cases h.removePkgfs with
      | error e =>
          have hno : ¬ ((w.pkgfs ≠ .missing → (Except.error e : Except Error Unit) = .ok ()) ∧
              h.symlinkPkgfs = .ok ()) := by
            rintro ⟨hremove, -⟩
            cases hremove hmissing
          exact ⟨rfl, iff_of_false nofun hno, fun hlinks => absurd hlinks hno⟩
      | ok u =>
          rcases placeSource_spec args htransport hcanonical { w with pkgfs := .missing }
            with ⟨hnode, hok, hlink⟩
          exact ⟨hnode, hok.trans (and_iff_right fun _ => rfl).symm, fun hlinks => hlink hlinks.2⟩

/-- With the link, the image is what is formatted. -/
theorem buildImage_eval (args : WrapArgs) (hlink : w.pkgfs = .symlink imagePath)
    (himage : w.node imagePath = some (.file image)) :
    (buildImage args).eval h.serve w = (w, .ok imagePath) := by
  simp only [buildImage, getPkgfsSrc, Prog.bind_eq, Prog.eval_bind, Prog.eval_ask, WrapHost.serve,
    hlink, himage, Prog.pure_eq, Prog.eval_done]

theorem packageImage_node (info : PackageFsVerityInfo) (w : World) :
    ((packageImage decoders imagePath info).eval h.serve w).1 = w := by
  have hopen : (h.serve w (.openImage imagePath)).1 = w := by
    simp only [WrapHost.serve]
    split
    · rfl
    · rfl
  simp only [packageImage, Prog.bind_eq, Prog.eval_bind, Prog.eval_ask, Prog.eval_done, hopen]
  split
  · rfl
  · rfl

/-- An image is read again only after a format that succeeds. -/
theorem run_success {decode : Bytes → Except Error VeritySuperBlock} {f : FormatVerity}
    {r : Except Error FormatOutput} {info : PackageFsVerityInfo}
    (hrun : f.run decode (fun _ => r) = .ok info) :
    ∃ output, r = .ok output ∧ output.success = true := by
  unfold FormatVerity.run at hrun
  simp only [except_bind_eq_ok, context_eq_ok] at hrun
  rcases hrun with ⟨output, houtput, u, hsuccess, -⟩
  exact ⟨output, houtput, ensure_eq_ok.mp hsuccess⟩

/-- The image is left as it is while it is formatted, unless the format succeeds. -/
theorem formatImage_node (rootHash : String) (happends : Appends decoders h imagePath image)
    (himage : w.node imagePath = some (.file image)) :
    ((formatImage decoders imagePath rootHash).eval h.serve w).1.node imagePath =
        some (.file image) ↔
      ¬ ∃ f output, FormatVerity.new decoders imagePath (.ok image) (some rootHash) true [] =
          .ok f ∧ h.veritysetup f.args image = .ok output ∧ output.success = true := by
  simp only [formatImage, Prog.bind_eq, Prog.eval_bind, Prog.eval_ask, WrapHost.serve, himage,
    Prog.eval_done]
  cases hnew : FormatVerity.new decoders imagePath (.ok image) (some rootHash) true [] with
  | error e => exact iff_of_true himage (by rintro ⟨f, output, ⟨⟩, -⟩)
  | ok f =>
      simp only [Except.ok.injEq, World.leave]
      cases houtput : h.veritysetup f.args image with
      | error e =>
          refine iff_of_true himage ?_
          rintro ⟨f', output, rfl, hrun, -⟩
          rw [houtput] at hrun
          cases hrun
      | ok output =>
          cases hsuccess : output.success with
          | false =>
              simp only [happends.failure hnew houtput hsuccess, Function.update_self, true_iff]
              rintro ⟨f', output', rfl, hrun, hsuccess'⟩
              rw [houtput, Except.ok.injEq] at hrun
              rw [← hrun, hsuccess] at hsuccess'
              cases hsuccess'
          | true =>
              rcases happends.success hnew houtput hsuccess with
                ⟨after, area, hafter, harea, hbytes⟩
              simp only [hafter, Function.update_self, Option.some.injEq, Node.file.injEq]
              refine iff_of_false (fun hsame => ?_)
                (not_not.mpr ⟨f, output, rfl, houtput, hsuccess⟩)
              -- The area takes room, so the image is longer than it was.
              have hlength := congrArg List.length hbytes
              rw [hsame, List.length_append, List.length_append] at hlength
              have hpos := List.length_pos_iff.mpr harea
              omega

/-- The end of a run, from the image on. -/
def wrapImage (decoders : SuperBlockDecoders) (image rootHash : String) :
    WrapProg (Option PackageFsVerityInfo) :=
  (formatImage decoders image rootHash).bind fun info =>
    (packageImage decoders image info).bind fun _ => Prog.done (.ok (some info))

/-- A run stops with the image as it is, or gets to the image. -/
theorem wrapRun_cases (decoders : SuperBlockDecoders) (hwraps : WrapsImage h args w imagePath)
    (himage : w.node imagePath = some (.file image)) :
    ((∃ e, ((wrapRun decoders args).eval h.serve w).2 = .error e) ∧
        ((wrapRun decoders args).eval h.serve w).1.node = w.node ∧
        ¬ Formats decoders h args w imagePath image) ∨
      ∃ w' rootHash, w'.node imagePath = some (.file image) ∧
        (wrapRun decoders args).eval h.serve w =
          (wrapImage decoders imagePath rootHash).eval h.serve w' ∧
        (Formats decoders h args w imagePath image ↔
          ∃ f output, FormatVerity.new decoders imagePath (.ok image) (some rootHash) true [] =
            .ok f ∧ h.veritysetup f.args image = .ok output ∧ output.success = true) := by
  rcases preparePkgfs_spec hwraps himage with ⟨hnode, hok, hlink⟩
  simp only [wrapRun, wrapPrepared, Prog.bind_eq, Prog.eval_bind, hwraps.wraps]
  rcases hprepare : (preparePkgfs args).eval h.serve w with ⟨w', r⟩
  rw [hprepare] at hnode hok hlink
  cases r with
  | error e =>
      exact Or.inl ⟨⟨e, rfl⟩, hnode, fun hformats => nomatch hok.mpr hformats.links⟩
  | ok u =>
      have hlinks : Links h args w := hok.mp rfl
      have himage' : w'.node imagePath = some (.file image) := by
        rw [← himage, ← hnode]
      simp only [Prog.eval_try_, WrapHost.serve]
      cases hdir : h.prepareIntermediateDir with
      | error e =>
          refine Or.inl ⟨⟨e, rfl⟩, hnode, fun hformats => ?_⟩
          cases hdir.symm.trans hformats.intermediateDir
      | ok u =>
          cases hkey : args.privateKeyFile with
          | none =>
              -- Without a key the run ends before the image is opened.
              refine Or.inl ⟨⟨_, rfl⟩, hnode, fun hformats => ?_⟩
              cases (congrArg Option.isSome hkey).symm.trans hformats.privateKey
          | some key =>
              simp only [Option.isNone_some, Bool.false_eq_true, if_false, Prog.eval_bind,
                buildImage_eval args (hlink hlinks) himage', Prog.eval_done]
              cases hroot : rootHashPath imagePath args.intermediateDir with
              | error e =>
                  refine Or.inl ⟨⟨e, rfl⟩, hnode, fun hformats => ?_⟩
                  rcases hformats.format with ⟨rootHash, -, -, hrootHash, -⟩
                  cases hroot.symm.trans hrootHash
              | ok rootHash =>
                  refine Or.inr ⟨w', rootHash, himage', ?_, ?_⟩
                  · simp only [wrapImage, Prog.eval_bind, Prog.eval_done, Prog.pure_eq]
                  · constructor
                    · rintro ⟨-, -, -, rootHash', f, output, hrootHash, hformats⟩
                      rw [hroot, Except.ok.injEq] at hrootHash
                      rw [hrootHash]
                      exact ⟨f, output, hformats⟩
                    · rintro ⟨f, output, hformats⟩
                      exact ⟨hlinks, hdir, congrArg Option.isSome hkey,
                        rootHash, f, output, hroot, hformats⟩

/-- What follows the format does not touch the image. -/
theorem wrapImage_node (rootHash : String) (w : World) :
    ((wrapImage decoders imagePath rootHash).eval h.serve w).1 =
      ((formatImage decoders imagePath rootHash).eval h.serve w).1 := by
  rw [wrapImage, Prog.eval_bind]
  split
  · rw [Prog.eval_bind]
    split
    · rw [Prog.eval_done, packageImage_node]
    · rw [packageImage_node]
  · rfl

/-- An image that is formatted is packaged, and stays as the command leaves it. -/
theorem wrapImage_eval {rootHash : String} {f : FormatVerity} {output : FormatOutput}
    {after : RegularFile} {superblock : SuperBlock} {info : PackageFsVerityInfo}
    (himage : w.node imagePath = some (.file image))
    (hnew : FormatVerity.new decoders imagePath (.ok image) (some rootHash) true [] = .ok f)
    (houtput : h.veritysetup f.args image = .ok output) (hafter : output.image = .ok after)
    (hinfo : f.run decoders.verity (fun _ => .ok output) = .ok info)
    (hbroker : FileSystemSuperBlockBroker.new decoders imagePath (.ok after) = .ok superblock)
    (hpackage : h.packageFile = .ok ()) :
    (wrapImage decoders imagePath rootHash).eval h.serve w =
      (w.leave imagePath (.ok output), .ok (some info)) := by
  simp only [wrapImage, formatImage, packageImage, Prog.bind_eq, Prog.eval_bind, Prog.eval_ask,
    Prog.eval_done, Prog.eval_try_, WrapHost.serve, himage, hnew, houtput, hinfo, World.leave,
    hafter, Function.update_self, hbroker, hpackage]

/-- A run leaves the image as it is unless it gets as far as a format that succeeds. -/
theorem wrapRun_node_iff (hwraps : WrapsImage h args w imagePath)
    (himage : w.node imagePath = some (.file image))
    (happends : Appends decoders h imagePath image) :
    ((wrapRun decoders args).eval h.serve w).1.node imagePath = some (.file image) ↔
      ¬ Formats decoders h args w imagePath image := by
  -- Before the format nothing writes to the image, and after it nothing does.
  rcases wrapRun_cases decoders hwraps himage with
    ⟨-, hnode, hno⟩ | ⟨w', rootHash, himage', heval, hiff⟩
  · rw [hnode]
    exact iff_of_true himage hno
  · rw [heval, wrapImage_node, hiff]
    exact formatImage_node rootHash happends himage'

/-- A package is made only of an image that has been formatted. -/
theorem formats_of_package (hwraps : WrapsImage h args w imagePath)
    (himage : w.node imagePath = some (.file image)) {info : PackageFsVerityInfo}
    (hok : ((wrapRun decoders args).eval h.serve w).2 = .ok (some info)) :
    Formats decoders h args w imagePath image := by
  rcases wrapRun_cases decoders hwraps himage with
    ⟨⟨e, herror⟩, -⟩ | ⟨w', rootHash, himage', heval, hiff⟩
  · cases herror.symm.trans hok
  · rw [hiff]
    rw [heval, wrapImage, Prog.eval_bind] at hok
    cases hformat : ((formatImage decoders imagePath rootHash).eval h.serve w').2 with
    | error e =>
        rw [hformat] at hok
        cases hok
    | ok formatted =>
        simp only [formatImage, Prog.bind_eq, Prog.eval_bind, Prog.eval_ask, WrapHost.serve,
          himage', Prog.eval_done] at hformat
        cases hnew : FormatVerity.new decoders imagePath (.ok image) (some rootHash) true [] with
        | error e =>
            rw [hnew] at hformat
            cases hformat
        | ok f =>
            simp only [hnew] at hformat
            rcases run_success hformat with ⟨output, houtput, hsuccess⟩
            exact ⟨f, output, rfl, houtput, hsuccess⟩

/-- The call leaves `pkgfs` as it is. -/
def KeepsLink {β : Type} : WrapCall β → Prop
  | .removePkgfs | .extractRootfs _ _ | .symlinkPkgfs _ | .createPkgfs => False
  | _ => True

theorem serve_keepsLink {β : Type} {c : WrapCall β} (hc : KeepsLink c) (w : World) :
    (h.serve w c).1.pkgfs = w.pkgfs := by
  cases c with
  | removePkgfs => exact hc.elim
  | extractRootfs src arch => exact hc.elim
  | symlinkPkgfs target => exact hc.elim
  | createPkgfs => exact hc.elim
  | createImage src dest imageType =>
      simp only [WrapHost.serve]
      split
      · rfl
      · rfl
  | openImage path =>
      simp only [WrapHost.serve]
      split
      · rfl
      · rfl
  | veritysetup path args =>
      simp only [WrapHost.serve, World.leave]
      split
      · split
        · rfl
        · split
          · rfl
          · rfl
      · rfl
  | pkgfsEntry => rfl
  | nodeAt path => rfl
  | canonicalize path => rfl
  | prepareWorkspace name => rfl
  | prepareIntermediateDir => rfl
  | packageFile path info => rfl

theorem buildImage_only : (buildImage args).Only KeepsLink := by
  refine Prog.only_bind ?_ fun src => ?_
  · refine Prog.only_bind (Prog.only_ask trivial) fun entry => ?_
    cases entry with
    | missing => trivial
    | symlink target =>
        refine Prog.only_bind (Prog.only_ask trivial) fun node => ?_
        cases node with
        | none => trivial
        | some node => trivial
    | directory => trivial
    | file => trivial
  · rcases src with ⟨src, node⟩
    cases node with
    | file f => trivial
    | directory => exact Prog.only_bind (Prog.only_try_ trivial) fun _ => trivial
    | other => trivial

theorem formatImage_only (rootHash : String) :
    (formatImage decoders imagePath rootHash).Only KeepsLink := by
  refine Prog.only_bind (Prog.only_ask trivial) fun opened => ?_
  refine Prog.only_bind (Prog.only_done _) fun f => ?_
  exact Prog.only_bind (Prog.only_ask trivial) fun output => Prog.only_done _

theorem packageImage_only (info : PackageFsVerityInfo) :
    (packageImage decoders imagePath info).Only KeepsLink := by
  refine Prog.only_bind (Prog.only_ask trivial) fun opened => ?_
  exact Prog.only_bind (Prog.only_done _) fun _ => Prog.only_try_ trivial

theorem wrapPrepared_only : (wrapPrepared decoders args).Only KeepsLink := by
  unfold wrapPrepared
  split
  · exact Prog.only_bind (Prog.only_try_ trivial) fun _ => trivial
  · refine Prog.only_bind (Prog.only_try_ trivial) fun _ => ?_
    split
    · trivial
    · refine Prog.only_bind buildImage_only fun image => ?_
      refine Prog.only_bind (Prog.only_done _) fun rootHash => ?_
      refine Prog.only_bind (formatImage_only rootHash) fun info => ?_
      exact Prog.only_bind (packageImage_only info) fun _ => Prog.only_done _

/-- A run that wraps the image leaves it to be wrapped again. -/
theorem wrapsImage_again (decoders : SuperBlockDecoders) {h' : WrapHost}
    (hwraps : WrapsImage h args w imagePath)
    (hwraps' : WrapsImage h' args w imagePath) (himage : w.node imagePath = some (.file image)) :
    WrapsImage h' args ((wrapRun decoders args).eval h.serve w).1 imagePath := by
  -- What the second run needs of the arguments does not depend on the first.
  refine ⟨hwraps'.wraps, hwraps'.source.imp_left fun ⟨hnone, hlink⟩ => ⟨hnone, ?_⟩⟩
  -- Without a source nothing is linked anew, so the link is there already and stays.
  have hlinks : Links h args w := fun hsome => by
    rw [hnone] at hsome
    cases hsome
  rcases preparePkgfs_spec hwraps himage with ⟨-, hok, hafter⟩
  rw [wrapRun, Prog.bind_eq, Prog.eval_bind, hok.mpr hlinks]
  exact Prog.eval_of_only h.serve (I := fun t : World => t.pkgfs = .symlink imagePath)
    (fun t c hc ht => (serve_keepsLink hc t).trans ht) wrapPrepared_only (hafter hlinks)

end Effects

/-- Two packages have the same sizes and the same offset in their verity metadata. -/
def SameExtents (info info' : PackageFsVerityInfo) : Prop :=
  info.dataSize = info'.dataSize ∧ info.hashOffset = info'.hashOffset ∧
    info.hashSize = info'.hashSize

/-- Two runs, one after the other: the packages they make of the image have the same sizes
    and offset, and each leaves the image as it was. -/
structure Repeatable (decoders : SuperBlockDecoders) (args : WrapArgs) (h h' : WrapHost)
    (w : World) (imagePath : String) : Prop where
  same : ∀ info info', ((wrapRun decoders args).eval h.serve w).2 = .ok (some info) →
    ((wrapRun decoders args).eval h'.serve ((wrapRun decoders args).eval h.serve w).1).2 =
      .ok (some info') → SameExtents info info'
  first : ((wrapRun decoders args).eval h.serve w).1.node imagePath = w.node imagePath
  second : ((wrapRun decoders args).eval h'.serve
    ((wrapRun decoders args).eval h.serve w).1).1.node imagePath = w.node imagePath

section Twice

variable {decoders : SuperBlockDecoders} {h h' : WrapHost} {args : WrapArgs} {w : World}
  {imagePath : String} {image : RegularFile}

/-- Wrapping an image twice, with whatever the host answers in the two runs, is repeatable
    exactly if neither gets as far as a format that succeeds. -/
theorem wrap_repeatable_iff (himage : w.node imagePath = some (.file image))
    (hwraps : WrapsImage h args w imagePath) (hwraps' : WrapsImage h' args w imagePath)
    (happends : Appends decoders h imagePath image)
    (happends' : Appends decoders h' imagePath image) :
    Repeatable decoders args h h' w imagePath ↔
      ¬ Formats decoders h args w imagePath image ∧
        ¬ Formats decoders h' args ((wrapRun decoders args).eval h.serve w).1 imagePath image := by
  have hagain := wrapsImage_again decoders hwraps hwraps' himage
  have hfirst := wrapRun_node_iff hwraps himage happends
  constructor
  · rintro ⟨-, hsame, hsame'⟩
    rw [himage] at hsame hsame'
    exact ⟨hfirst.mp hsame, (wrapRun_node_iff hagain hsame happends').mp hsame'⟩
  · rintro ⟨hno, hno'⟩
    have hsame := hfirst.mpr hno
    have hsame' := (wrapRun_node_iff hagain hsame happends').mpr hno'
    refine ⟨fun info info' hinfo _ => ?_, hsame.trans himage.symm, hsame'.trans himage.symm⟩
    exact absurd (formats_of_package hwraps himage hinfo) hno

end Twice

section Sample

/-- The superblock and the tree of an image with this number of blocks, in two blocks. -/
def hashArea (blocks : UInt64) : Bytes :=
  encVerity { twoBlocks with dataBlocks := blocks } ++ List.replicate (3584 + 4096) 0

theorem length_hashArea (blocks : UInt64) : (hashArea blocks).length = 8192 := by
  rw [hashArea, List.length_append, length_encVerity, List.length_replicate]

/-- What the command leaves of an image of two blocks that it has formatted before. -/
def formattedAgain : FormatOutput :=
  { sampleOutput 7040 (by decide) with
    image := .ok ⟨formattedBytes 7040 ++ hashArea 4, by
      rw [List.length_append, length_formattedBytes (by decide), length_hashArea]
      decide⟩ }

theorem formattedBytes_two_blocks : formattedBytes 7040 = imageBytes 7040 ++ hashArea 2 := by
  rw [formattedBytes, Nat.sub_self, List.replicate_zero, List.append_nil]
  exact List.append_assoc _ (encVerity twoBlocks) _

/-- The superblock of the second format lies behind the area of the first. -/
theorem readSuperBlock_again :
    readSuperBlock decodeVerity (formattedBytes 7040 ++ hashArea 4) 16384 =
      .ok { twoBlocks with dataBlocks := 4 } := by
  have hlength : (formattedBytes 7040).length = 16384 := length_formattedBytes le_rfl
  have hread : readSuperBlock decodeVerity (formattedBytes 7040 ++ hashArea 4) 16384 =
      decodeVerity ((formattedBytes 7040 ++ hashArea 4).drop 16384) := if_neg (by decide)
  rw [hread, List.drop_left' hlength, hashArea, decodeVerity_encVerity]

/-- A host on which nothing fails. -/
def wrapHost : WrapHost where
  removePkgfs := .ok ()
  extractRootfs := .ok ()
  canonicalize := .ok
  symlinkPkgfs := .ok ()
  createPkgfs := .ok ()
  prepareWorkspace := .ok ()
  prepareIntermediateDir := .ok ()
  createImage := .error ["No space left on device (os error 28)"]
  veritysetup _ image :=
    .ok (if image.bytes.length = 8192 then sampleOutput 7040 (by decide) else formattedAgain)
  packageFile := .ok ()

/-- The arguments of a run on an image outside of the workspace. -/
def wrapArgs (privateKeyFile : Option String) : WrapArgs where
  workspace := "/ws"
  prepare := none
  pkgfsSrc := some "/images/app.erofs"
  srcOciArch := none
  privateKeyFile := privateKeyFile
  pkgfsType := none

/-- The image has two blocks, and nothing is linked yet. -/
def twoBlockWorld : World where
  pkgfs := .missing
  node path :=
    if path = "/images/app.erofs" then some (.file (sampleImage 7040 (by decide))) else none

theorem wrapsImage_sample (privateKeyFile : Option String) :
    WrapsImage wrapHost (wrapArgs privateKeyFile) twoBlockWorld "/images/app.erofs" :=
  ⟨rfl, Or.inr ⟨"/images/app.erofs", rfl, by decide, rfl⟩⟩

theorem veritysetup_sample (args : List String) :
    wrapHost.veritysetup args (sampleImage 7040 (by decide)) =
      .ok (sampleOutput 7040 (by decide)) :=
  congrArg Except.ok (if_pos (length_imageBytes 7040))

/-- The area is appended at the end of the second block. -/
theorem appends_sample :
    Appends sampleDecoders wrapHost "/images/app.erofs" (sampleImage 7040 (by decide)) := by
  have hlength : (sampleImage 7040 (by decide)).bytes.length = 8192 := length_imageBytes 7040
  have houtput : ∀ {args output},
      wrapHost.veritysetup args (sampleImage 7040 (by decide)) = .ok output →
        output = sampleOutput 7040 (by decide) := by
    intro args output h
    rw [veritysetup_sample, Except.ok.injEq] at h
    exact h.symm
  constructor
  · intro rootHash f output hnew hrun hsuccess
    have hbroker : FileSystemSuperBlockBroker.new sampleDecoders "/images/app.erofs"
        (.ok (sampleImage 7040 (by decide))) = .ok (.erofs ⟨erofsSuperMagic, 12⟩) :=
      broker_sample "/images/app.erofs" _ (List.append_nil (imageBytes 7040)).symm
    have hoffset : f.hashOffset = 8192 := by
      rw [(new_of_blockSize hbroker rfl hnew).2, size_sampleImage]
      rfl
    rw [houtput hrun]
    refine ⟨_, hashArea 2, rfl, ?_, ?_⟩
    · exact List.ne_nil_of_length_pos (length_hashArea 2 ▸ by decide)
    · rw [hoffset, hlength]
      exact List.append_assoc _ (encVerity twoBlocks) _
  · intro rootHash f output hnew hrun hsuccess
    rw [houtput hrun] at hsuccess
    cases hsuccess

/-- Without a private key nothing is formatted. -/
theorem wrap_repeatable_without_key :
    Repeatable sampleDecoders (wrapArgs none) wrapHost wrapHost twoBlockWorld
      "/images/app.erofs" := by
  have hno : ∀ w, ¬ Formats sampleDecoders wrapHost (wrapArgs none) w "/images/app.erofs"
      (sampleImage 7040 (by decide)) := fun w hformats => nomatch hformats.privateKey
  exact (wrap_repeatable_iff rfl (wrapsImage_sample none) (wrapsImage_sample none) appends_sample
    appends_sample).mpr ⟨hno _, hno _⟩

/-- The sizes of the data that the packages of two runs record. -/
def recordedSizes (args : WrapArgs) : Option (UInt64 × UInt64) := do
  let run := (wrapRun sampleDecoders args).eval wrapHost.serve twoBlockWorld
  let info ← run.2.toOption.join
  let info' ← ((wrapRun sampleDecoders args).eval wrapHost.serve run.1).2.toOption.join
  some (info.dataSize, info'.dataSize)

/-- A run on an image of whole blocks packages it, with the size it had before. -/
theorem exists_wrapRun_sample {w : World} {image after : RegularFile} {output : FormatOutput}
    {rest area : Bytes} {rootHash : String} {blocks : UInt64}
    (hwraps : WrapsImage wrapHost (wrapArgs (some "key.pem")) w "/images/app.erofs")
    (himage : w.node "/images/app.erofs" = some (.file image))
    (hbytes : image.bytes = imageBytes 7040 ++ rest)
    (hblocks : alignedHashOffset image.size 4096 = image.size)
    (houtput : ∀ args, wrapHost.veritysetup args image = .ok output)
    (hsuccess : output.success = true) (hroot : output.rootHash = .ok rootHash)
    (hafter : output.image = .ok after) (hgrown : after.bytes = image.bytes ++ area)
    (hsb : readSuperBlock decodeVerity after.bytes image.size =
      .ok { twoBlocks with dataBlocks := blocks }) :
    ∃ w' info, (wrapRun sampleDecoders (wrapArgs (some "key.pem"))).eval wrapHost.serve w =
        (w', .ok (some info)) ∧
      w'.node "/images/app.erofs" = some (.file after) ∧ info.dataSize = image.size := by
  have hblock : (SuperBlock.erofs ⟨erofsSuperMagic, 12⟩).blockSize = .ok 4096 := rfl
  have hbroker := broker_sample "/images/app.erofs" image hbytes
  have hbroker' := broker_sample "/images/app.erofs" after (hgrown.trans
    ((congrArg (· ++ area) hbytes).trans (List.append_assoc _ _ _)))
  have hnew := fun rootHash => @new_eq _ _ _ (some rootHash) _ _ hbroker hblock
  rcases wrapRun_cases sampleDecoders hwraps himage with
    ⟨-, -, hno⟩ | ⟨w', rootHash', himage', heval, -⟩
  · refine absurd ⟨fun _ => ⟨fun _ => rfl, rfl⟩, rfl, rfl, ?_⟩ hno
    exact ⟨_, _, output, rfl, hnew _, houtput _, hsuccess⟩
  · have hnew := hnew rootHash'
    rcases new_of_blockSize hbroker hblock hnew with ⟨hdata, hoffset⟩
    generalize FormatVerity.fromParts "/images/app.erofs" (some rootHash')
      (4096 : UInt32).toUInt64 image.size true [] = f at hnew hdata hoffset
    have hhash : f.hashOffset = image.size := hoffset.trans hblocks
    have hsize : f.hashOffset ≤ after.size := by
      rw [hhash, UInt64.le_iff_toNat_le, RegularFile.toNat_size, RegularFile.toNat_size, hgrown,
        List.length_append]
      exact Nat.le_add_right _ _
    rw [← hhash] at hsb
    rcases exists_run_twoBlocks hsuccess hafter hroot hsize hsb with ⟨info, hinfo, hdataSize⟩
    refine ⟨_, info, heval.trans (wrapImage_eval himage' hnew (houtput _) hafter hinfo hbroker'
      rfl), ?_, hdataSize.trans hdata⟩
    simp only [World.leave, hafter, Function.update_self]

/-- Two runs on the image, and the sizes they record. -/
theorem exists_two_runs :
    ∃ w' w'' info info',
      (wrapRun sampleDecoders (wrapArgs (some "key.pem"))).eval wrapHost.serve twoBlockWorld =
          (w', .ok (some info)) ∧
        (wrapRun sampleDecoders (wrapArgs (some "key.pem"))).eval wrapHost.serve w' =
          (w'', .ok (some info')) ∧
        info.dataSize = 8192 ∧ info'.dataSize = 16384 := by
  have hwraps := wrapsImage_sample (some "key.pem")
  -- The image has two blocks, and four once it is formatted.
  have hsize : (sampleImage 7040 (by decide)).size = 8192 := size_sampleImage 7040 (by decide)
  have hafter : ∃ after, (sampleOutput 7040 (by decide)).image = .ok after ∧
      after.bytes = formattedBytes 7040 := ⟨_, rfl, rfl⟩
  rcases hafter with ⟨after, hafter, hbytes⟩
  have hlength : after.bytes.length = 16384 := by
    rw [hbytes, length_formattedBytes le_rfl]
  have hsize' : after.size = 16384 :=
    UInt64.toNat_inj.mp ((RegularFile.toNat_size after).trans hlength)
  have hagain : ∃ again, formattedAgain.image = .ok again ∧
      again.bytes = formattedBytes 7040 ++ hashArea 4 := ⟨_, rfl, rfl⟩
  rcases hagain with ⟨again, hagain, hbytes'⟩
  have hgrown : after.bytes = imageBytes 7040 ++ hashArea 2 :=
    hbytes.trans formattedBytes_two_blocks
  have hread : readSuperBlock decodeVerity after.bytes (sampleImage 7040 (by decide)).size =
      .ok { twoBlocks with dataBlocks := 2 } := by
    rw [hbytes, hsize]
    exact readSuperBlock_sample le_rfl
  have hread' : readSuperBlock decodeVerity again.bytes after.size =
      .ok { twoBlocks with dataBlocks := 4 } := by
    rw [hbytes', hsize']
    exact readSuperBlock_again
  have hneq : ¬ after.bytes.length = 8192 := by
    rw [hlength]
    decide
  rcases exists_wrapRun_sample hwraps rfl (List.append_nil (imageBytes 7040)).symm
      (by rw [hsize]; rfl) veritysetup_sample rfl rfl hafter hgrown hread
    with ⟨w', info, heval, hnode, hdata⟩
  have hwraps' := wrapsImage_again sampleDecoders hwraps hwraps rfl
  rw [heval] at hwraps'
  rcases exists_wrapRun_sample hwraps' hnode hgrown (by rw [hsize']; rfl)
      (fun _ => congrArg Except.ok (if_neg hneq)) rfl rfl hagain (by rw [hbytes', hbytes]) hread'
    with ⟨w'', info', heval', -, hdata'⟩
  exact ⟨w', w'', info, info', heval, heval', hdata.trans hsize, hdata'.trans hsize'⟩

/-- An image of two blocks: the second package takes the hash area of the first for data. -/
theorem second_wrap_differs :
    Appends sampleDecoders wrapHost "/images/app.erofs" (sampleImage 7040 (by decide)) ∧
      WrapsImage wrapHost (wrapArgs (some "key.pem")) twoBlockWorld "/images/app.erofs" ∧
      recordedSizes (wrapArgs (some "key.pem")) = some (8192, 16384) ∧
      ¬ Repeatable sampleDecoders (wrapArgs (some "key.pem")) wrapHost wrapHost twoBlockWorld
        "/images/app.erofs" := by
  rcases exists_two_runs with ⟨w', w'', info, info', hfirst, hsecond, hdata, hdata'⟩
  have hsizes : recordedSizes (wrapArgs (some "key.pem")) =
      some (info.dataSize, info'.dataSize) := by
    simp only [recordedSizes, hfirst, hsecond]
    rfl
  rw [hdata, hdata'] at hsizes
  refine ⟨appends_sample, wrapsImage_sample _, hsizes, fun hsame => ?_⟩
  have heq := (hsame.same info info' (by rw [hfirst]) (by rw [hfirst, hsecond])).1
  rw [hdata, hdata'] at heq
  exact absurd heq (by decide)

end Sample

end Package

end Ssam
