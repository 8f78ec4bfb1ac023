/-
  RustSchema.Plain.Names — paths, names and sites as plain data.

  `ofPlain_toPlain`, for each of the three: what is written is read back unchanged.
-/

import RustSchema.ModPath
import RustSchema.Plain.Scalar

namespace RustSchema

namespace ModPath

def toPlain (p : ModPath) : Plain :=
  .object [("absolute", .bool p.absolute), ("segments", .list (p.segments.map .text))]

def ofPlain : Plain → Reading ModPath
  | .object entries =>
    ModPath.mk <$> Plain.optional entries "absolute" false Plain.readBool
      <*> Plain.optional entries "segments" [] (Plain.listOf Plain.readText)
  | _ => .fail .notObject

theorem ofPlain_toPlain (p : ModPath) : ofPlain p.toPlain = .done p := by
  have h := Plain.itemsFrom_map Plain.text Plain.readText 0 p.segments fun _ _ => rfl
  simp [toPlain, ofPlain, Plain.optional, List.lookup_cons, Plain.readBool, Plain.listOf, h]

end ModPath

namespace QualName

def toPlain (name : QualName) : Plain :=
  .object [("path", name.path.toPlain), ("ident", .text name.ident)]

def ofPlain : Plain → Reading QualName
  | .object entries =>
    QualName.mk <$> Plain.optional entries "path" {} ModPath.ofPlain
      <*> Plain.required entries "ident" Plain.readText
  | _ => .fail .notObject

theorem ofPlain_toPlain (name : QualName) : ofPlain name.toPlain = .done name := by
  simp [toPlain, ofPlain, Plain.optional, Plain.required, List.lookup_cons, Plain.readText,
    ModPath.ofPlain_toPlain]

end QualName

namespace Site

def toPlain (site : Site) : Plain :=
  .object [("file", .text site.file), ("relative_mod", site.within.toPlain)]

def ofPlain : Plain → Reading Site
  | .object entries =>
    Site.mk <$> Plain.required entries "file" Plain.readText
      <*> Plain.optional entries "relative_mod" {} ModPath.ofPlain
  | _ => .fail .notObject

theorem ofPlain_toPlain (site : Site) : ofPlain site.toPlain = .done site := by
  simp [toPlain, ofPlain, Plain.optional, Plain.required, List.lookup_cons, Plain.readText,
    ModPath.ofPlain_toPlain]

end Site

end RustSchema
