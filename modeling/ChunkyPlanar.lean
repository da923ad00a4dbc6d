import ChunkyPlanar.Main
import ChunkyPlanar.Proofs.Machine.Picture
import ChunkyPlanar.Proofs.Palette.Compaction.Verdict
import ChunkyPlanar.Proofs.Palette.File.Verdict
import ChunkyPlanar.Proofs.Picture.ArrayText.Listings
import ChunkyPlanar.Proofs.Picture.Canonicity
import ChunkyPlanar.Proofs.Picture.Padding
import ChunkyPlanar.Proofs.Picture.Shortcut
import ChunkyPlanar.Proofs.Settings
import ChunkyPlanar.Proofs.Size.Reader
import ChunkyPlanar.Proofs.Tool.Encoding
import ChunkyPlanar.Proofs.Tool.Encoding.Faults
import ChunkyPlanar.Proofs.Tool.Encoding.Journal
import ChunkyPlanar.Proofs.Tool.Preview.Idempotence
import ChunkyPlanar.Proofs.Tool.Preview.Saving
