import ChunkyPlanar.Pixmap
import ChunkyPlanar.Tool.Error

/-! Image files. They hold pixmaps in formats that go by the extension of the file's
name. -/

namespace ChunkyPlanar

inductive ImageFormat where
  | avif | bmp | dds | farbfeld | gif | hdr | ico | jpeg | openExr | pnm | png
  | qoi | tga | tiff | webp
  deriving DecidableEq, Repr

namespace ImageFormat

def ofExtension? : String → Option ImageFormat
  | "avif" => some avif
  | "bmp" => some bmp
  | "dds" => some dds
  | "ff" => some farbfeld
  | "gif" => some gif
  | "hdr" => some hdr
  | "ico" => some ico
  | "jpg" | "jpeg" | "jfif" => some jpeg
  | "exr" => some openExr
  | "pbm" | "pam" | "ppm" | "pgm" | "pnm" => some pnm
  | "png" | "apng" => some png
  | "qoi" => some qoi
  | "tga" => some tga
  | "tif" | "tiff" => some tiff
  | "webp" => some webp
  | _ => none

/-- Extensions count in upper and lower case alike. -/
def ofPath? (path : FilePath) : Option ImageFormat := do
  let extension ← String.fromUTF8? ⟨(← path.extension?).toArray⟩
  ofExtension? extension.toLower

def isReadable : ImageFormat → Bool
  | avif => false
  | _ => true

/-- Whether a format is written, and with channels of one byte. -/
def takesBytes : ImageFormat → Bool
  | dds | farbfeld | hdr | openExr => false
  | _ => true

def longestSide? : ImageFormat → Option Nat
  | ico => some 256
  | webp => some 16384
  | avif | gif | jpeg | tga => some 65535
  | _ => none

def holds (format : ImageFormat) (size : Size) : Bool :=
  format.takesBytes && format.longestSide?.all fun longest =>
    size.width.toNat ≤ longest && size.height.toNat ≤ longest

end ImageFormat

/-- How pixmaps are read from and written to files of a format. -/
structure ImageCodec where
  decode? : ImageFormat → Bytes → Option Pixmap
  encode? : ImageFormat → Pixmap → Option Bytes

namespace ImageCodec

def decodeFor? (codec : ImageCodec) (path : FilePath) (content : Bytes) :
    Option Pixmap := do
  let format ← ImageFormat.ofPath? path
  guard format.isReadable
  codec.decode? format content

def encodeAs? (codec : ImageCodec) (format : ImageFormat) (pixmap : Pixmap) :
    Option Bytes := do
  guard (format.holds pixmap.toSize)
  codec.encode? format pixmap

def read (codec : ImageCodec) (path : FilePath) (content : Except FileError Bytes) :
    Except Reason Pixmap :=
  match content with
  | .error error => .error { message := error.message }
  | .ok content =>
      match codec.decodeFor? path content with
      | some pixmap => .ok pixmap
      | none => .error { message := "the file holds no image" }

/-- The format has to be known before anything is written. A pixmap that its format
cannot hold fails with an empty file in its place. -/
def save {m : Type → Type} [Monad m] (codec : ImageCodec)
    (write : FilePath → Bytes → m (Except FileError Unit)) (path : FilePath)
    (pixmap : Pixmap) : m (Except Reason Unit) := do
  match ImageFormat.ofPath? path with
  | none => return .error { message := "the format is not known" }
  | some format =>
      let content? := codec.encodeAs? format pixmap
      match ← write path (content?.getD #[]), content? with
      | .error error, _ => return .error { message := error.message }
      | .ok (), none => return .error { message := "the format cannot hold the image" }
      | .ok (), some _ => return .ok ()

end ImageCodec

end ChunkyPlanar
