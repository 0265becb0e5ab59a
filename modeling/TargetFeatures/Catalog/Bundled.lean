import TargetFeatures.Catalog.Build

/-!
# The bundled catalog

The extensions, architectures and processors of AArch64 that are known without a catalog file.
The ids of extensions are their positions, and feature lists have this order.
-/

namespace TargetFeatures.Bundled

/-- An extension without function versions. -/
def single (name feature : String) : ExtensionSpec :=
  ⟨name, feature, none, none, none, leastPriority⟩

/-- An extension for which there can be function versions. -/
def versioned (name feature : String) (code : Int) (implied : Option String)
    (priority : Fin (maxPriority + 1)) : ExtensionSpec :=
  ⟨name, feature, none, some code, implied, priority⟩

/-- The extensions. -/
def extensions : List ExtensionSpec := [
  versioned "crc" "+crc" 10 (some "+crc") 110,
  versioned "lse" "+lse" 7 (some "+lse") 80,
  versioned "rdm" "+rdm" 6 (some "+rdm,+fp-armv8,+neon") 70,
  single "crypto" "+crypto",
  versioned "sm4" "+sm4" 5 (some "+sm4,+fp-armv8,+neon") 60,
  versioned "sha3" "+sha3" 13 (some "+sha3,+sha2,+fp-armv8,+neon") 140,
  versioned "sha2" "+sha2" 12 (some "+sha2,+fp-armv8,+neon") 130,
  versioned "aes" "+aes" 14 (some "+fp-armv8,+neon") 150,
  versioned "dotprod" "+dotprod" 4 (some "+dotprod,+fp-armv8,+neon") 50,
  versioned "fp" "+fp-armv8" 8 (some "+fp-armv8,+neon") 90,
  versioned "simd" "+neon" 9 (some "+fp-armv8,+neon") 100,
  versioned "fp16" "+fullfp16" 16 (some "+fullfp16,+fp-armv8,+neon") 170,
  versioned "fp16fml" "+fp16fml" 3 (some "+fp16fml,+fullfp16,+fp-armv8,+neon") 40,
  single "profile" "+spe",
  single "ras" "+ras",
  versioned "sve" "+sve" 30 (some "+sve,+fullfp16,+fp-armv8,+neon") 310,
  versioned "sve2" "+sve2" 36 (some "+sve2,+sve,+fullfp16,+fp-armv8,+neon") 370,
  versioned "sve2-aes" "+sve2-aes" 37
    (some "+sve2,+sve,+sve2-aes,+fullfp16,+fp-armv8,+neon") 380,
  versioned "sve2-sm4" "+sve2-sm4" 41
    (some "+sve2,+sve,+sve2-sm4,+fullfp16,+fp-armv8,+neon") 420,
  versioned "sve2-sha3" "+sve2-sha3" 40
    (some "+sve2,+sve,+sve2-sha3,+fullfp16,+fp-armv8,+neon") 410,
  versioned "sve2-bitperm" "+sve2-bitperm" 39
    (some "+sve2,+sve,+sve2-bitperm,+fullfp16,+fp-armv8,+neon") 400,
  versioned "rcpc" "+rcpc" 22 (some "+rcpc") 230,
  versioned "rng" "+rand" 0 (some "+rand") 10,
  versioned "memtag" "+mte" 43 (some "+mte") 440,
  versioned "ssbs" "+ssbs" 48 none 490,
  versioned "sb" "+sb" 46 (some "+sb") 470,
  versioned "predres" "+predres" 47 (some "+predres") 480,
  versioned "bf16" "+bf16" 27 (some "+bf16") 280,
  versioned "i8mm" "+i8mm" 26 (some "+i8mm") 270,
  versioned "f32mm" "+f32mm" 34 (some "+sve,+f32mm,+fullfp16,+fp-armv8,+neon") 350,
  versioned "f64mm" "+f64mm" 35 (some "+sve,+f64mm,+fullfp16,+fp-armv8,+neon") 360,
  versioned "sme" "+sme" 42 (some "+sme,+bf16") 430,
  versioned "sme-f64f64" "+sme-f64f64" 55 (some "+sme,+sme-f64f64,+bf16") 560,
  versioned "sme-i16i64" "+sme-i16i64" 56 (some "+sme,+sme-i16i64,+bf16") 570,
  versioned "sme2" "+sme2" 57 (some "+sme2,+sme,+bf16") 580,
  versioned "mops" "+mops" 59 (some "+mops") 650,
  single "hbc" "+hbc",
  versioned "flagm" "+flagm" 1 (some "+flagm") 20,
  single "pauth" "+pauth",
  single "perfmon" "+perfmon",
  versioned "ls64" "+ls64" 51 none 520,
  single "brbe" "+brbe",
  single "cssc" "+cssc",
  versioned "rcpc3" "+rcpc3" 58 (some "+rcpc,+rcpc3") 600,
  single "lse128" "+lse128",
  single "predres2" "+specres2",
  single "rasv2" "+rasv2",
  single "sve2p1" "+sve2p1",
  single "sme2p1" "+sme2p1",
  single "sme-f16f16" "+sme-f16f16",
  single "sme-fa64" "+sme-fa64",
  single "b16b16" "+b16b16",
  single "cpa" "+cpa",
  single "fp8" "+fp8",
  single "ssve-fp8fma" "+ssve-fp8fma",
  single "ssve-fp8dot2" "+ssve-fp8dot2",
  single "ssve-fp8dot4" "+ssve-fp8dot4",
  single "sme-f8f16" "+sme-f8f16",
  single "sme-f8f32" "+sme-f8f32",
  versioned "jscvt" "+jsconv" 20 (some "+fp-armv8,+neon,+jsconv") 210,
  versioned "fcma" "+complxnum" 21 (some "+fp-armv8,+neon,+complxnum") 220]

/-- The dependencies: what an extension requires comes first. -/
def dependencies : List DependencySpec := [
  ⟨"fp", "fp16"⟩, ⟨"fp", "simd"⟩, ⟨"fp", "jscvt"⟩, ⟨"fp", "fp8"⟩, ⟨"simd", "crypto"⟩,
  ⟨"simd", "aes"⟩, ⟨"simd", "sha2"⟩, ⟨"simd", "sha3"⟩, ⟨"simd", "sm4"⟩, ⟨"simd", "rdm"⟩,
  ⟨"simd", "dotprod"⟩, ⟨"simd", "fcma"⟩, ⟨"fp16", "fp16fml"⟩, ⟨"fp16", "sve"⟩, ⟨"bf16", "sme"⟩,
  ⟨"bf16", "b16b16"⟩, ⟨"sve", "sve2"⟩, ⟨"sve", "f32mm"⟩, ⟨"sve", "f64mm"⟩, ⟨"sve2", "sve2p1"⟩,
  ⟨"sve2", "sve2-bitperm"⟩, ⟨"sve2", "sve2-aes"⟩, ⟨"sve2", "sve2-sha3"⟩, ⟨"sve2", "sve2-sm4"⟩,
  ⟨"sve2", "sme-fa64"⟩, ⟨"sme", "sme2"⟩, ⟨"sme", "sme-f16f16"⟩, ⟨"sme", "sme-f64f64"⟩,
  ⟨"sme", "sme-i16i64"⟩, ⟨"sme", "sme-fa64"⟩, ⟨"sme2", "sme2p1"⟩, ⟨"sme2", "ssve-fp8fma"⟩,
  ⟨"sme2", "ssve-fp8dot2"⟩, ⟨"sme2", "ssve-fp8dot4"⟩, ⟨"sme2", "sme-f8f16"⟩,
  ⟨"sme2", "sme-f8f32"⟩, ⟨"fp8", "sme-f8f16"⟩, ⟨"fp8", "sme-f8f32"⟩, ⟨"lse", "lse128"⟩,
  ⟨"predres", "predres2"⟩, ⟨"ras", "rasv2"⟩, ⟨"rcpc", "rcpc3"⟩]

/-- The architectures. -/
def architectures : List ArchitectureSpec := [
  ⟨"armv8-a", 8, 0, .application, "+v8a", none, ["fp", "simd"], []⟩,
  ⟨"armv8.1-a", 8, 1, .application, "+v8.1a", some "armv8-a", ["crc", "lse", "rdm"], []⟩,
  ⟨"armv8.2-a", 8, 2, .application, "+v8.2a", some "armv8.1-a", ["ras"], []⟩,
  ⟨"armv8.3-a", 8, 3, .application, "+v8.3a", some "armv8.2-a", ["fcma", "jscvt", "pauth", "rcpc"], []⟩,
  ⟨"armv8.4-a", 8, 4, .application, "+v8.4a", some "armv8.3-a", ["dotprod"], []⟩,
  ⟨"armv8.5-a", 8, 5, .application, "+v8.5a", some "armv8.4-a", [], []⟩,
  ⟨"armv8.6-a", 8, 6, .application, "+v8.6a", some "armv8.5-a", ["bf16", "i8mm"], []⟩,
  ⟨"armv8.7-a", 8, 7, .application, "+v8.7a", some "armv8.6-a", [], []⟩,
  ⟨"armv8.8-a", 8, 8, .application, "+v8.8a", some "armv8.7-a", ["mops", "hbc"], []⟩,
  ⟨"armv8.9-a", 8, 9, .application, "+v8.9a", some "armv8.8-a", ["predres2", "cssc", "rasv2"], []⟩,
  ⟨"armv9-a", 9, 0, .application, "+v9a", some "armv8.5-a", ["fp16", "sve", "sve2"], []⟩,
  ⟨"armv9.1-a", 9, 1, .application, "+v9.1a", some "armv9-a", ["bf16", "i8mm"], []⟩,
  ⟨"armv9.2-a", 9, 2, .application, "+v9.2a", some "armv9.1-a", [], []⟩,
  ⟨"armv9.3-a", 9, 3, .application, "+v9.3a", some "armv9.2-a", ["mops", "hbc"], []⟩,
  ⟨"armv9.4-a", 9, 4, .application, "+v9.4a", some "armv9.3-a", ["predres2", "cssc", "rasv2"], []⟩,
  ⟨"armv9.5-a", 9, 5, .application, "+v9.5a", some "armv9.4-a", ["cpa"], []⟩,
  ⟨"armv8-r", 8, 0, .realTime, "+v8r", some "armv8.5-a", ["ssbs", "fp16", "fp16fml", "sb"], []⟩]

/-- The processors. -/
def processors : List ProcessorSpec := [
  ⟨"cortex-a34", "armv8-a", ["aes", "sha2", "crc"]⟩,
  ⟨"cortex-a35", "armv8-a", ["aes", "sha2", "crc"]⟩,
  ⟨"cortex-a53", "armv8-a", ["aes", "sha2", "crc"]⟩,
  ⟨"cortex-a55", "armv8.2-a", ["aes", "sha2", "fp16", "dotprod", "rcpc"]⟩,
  ⟨"cortex-a510", "armv9-a", ["bf16", "i8mm", "sb", "pauth", "memtag", "ssbs", "sve", "sve2",
      "sve2-bitperm", "fp16fml"]⟩,
  ⟨"cortex-a520", "armv9.2-a", ["sb", "ssbs", "memtag", "fp16fml", "pauth", "sve2-bitperm",
      "flagm", "perfmon", "predres"]⟩,
  ⟨"cortex-a520ae", "armv9.2-a", ["sb", "ssbs", "memtag", "fp16fml", "pauth", "sve2-bitperm",
      "flagm", "perfmon", "predres"]⟩,
  ⟨"cortex-a57", "armv8-a", ["aes", "sha2", "crc"]⟩,
  ⟨"cortex-a65", "armv8.2-a", ["aes", "sha2", "dotprod", "fp16", "rcpc", "ssbs"]⟩,
  ⟨"cortex-a65ae", "armv8.2-a", ["aes", "sha2", "dotprod", "fp16", "rcpc", "ssbs"]⟩,
  ⟨"cortex-a72", "armv8-a", ["aes", "sha2", "crc"]⟩,
  ⟨"cortex-a73", "armv8-a", ["aes", "sha2", "crc"]⟩,
  ⟨"cortex-a75", "armv8.2-a", ["aes", "sha2", "fp16", "dotprod", "rcpc"]⟩,
  ⟨"cortex-a76", "armv8.2-a", ["aes", "sha2", "fp16", "dotprod", "rcpc", "ssbs"]⟩,
  ⟨"cortex-a76ae", "armv8.2-a", ["aes", "sha2", "fp16", "dotprod", "rcpc", "ssbs"]⟩,
  ⟨"cortex-a77", "armv8.2-a", ["aes", "sha2", "fp16", "rcpc", "dotprod", "ssbs"]⟩,
  ⟨"cortex-a78", "armv8.2-a", ["aes", "sha2", "fp16", "dotprod", "rcpc", "ssbs", "profile"]⟩,
  ⟨"cortex-a78ae", "armv8.2-a", ["aes", "sha2", "fp16", "dotprod", "rcpc", "ssbs", "profile"]⟩,
  ⟨"cortex-a78c", "armv8.2-a", ["aes", "sha2", "fp16", "dotprod", "rcpc", "ssbs", "profile",
      "flagm", "pauth"]⟩,
  ⟨"cortex-a710", "armv9-a", ["memtag", "pauth", "flagm", "sb", "i8mm", "fp16fml", "sve",
      "sve2", "sve2-bitperm", "bf16"]⟩,
  ⟨"cortex-a715", "armv9-a", ["sb", "ssbs", "memtag", "fp16", "fp16fml", "pauth", "i8mm",
      "predres", "perfmon", "profile", "sve", "sve2-bitperm", "bf16", "flagm"]⟩,
  ⟨"cortex-a720", "armv9.2-a", ["sb", "ssbs", "memtag", "fp16fml", "pauth", "sve2-bitperm",
      "flagm", "perfmon", "predres", "profile"]⟩,
  ⟨"cortex-a720ae", "armv9.2-a", ["sb", "ssbs", "memtag", "fp16fml", "pauth", "sve2-bitperm",
      "flagm", "perfmon", "predres", "profile"]⟩,
  ⟨"cortex-r82", "armv8-r", ["lse", "flagm", "perfmon", "predres"]⟩,
  ⟨"cortex-r82ae", "armv8-r", ["lse", "flagm", "perfmon", "predres"]⟩,
  ⟨"cortex-x1", "armv8.2-a", ["aes", "sha2", "fp16", "dotprod", "rcpc", "ssbs", "profile"]⟩,
  ⟨"cortex-x1c", "armv8.2-a", ["aes", "sha2", "fp16", "dotprod", "rcpc", "ssbs", "pauth",
      "profile", "flagm"]⟩,
  ⟨"cortex-x2", "armv9-a", ["memtag", "bf16", "i8mm", "pauth", "ssbs", "sb", "sve", "sve2",
      "sve2-bitperm", "fp16fml", "flagm"]⟩,
  ⟨"cortex-x3", "armv9-a", ["sve", "perfmon", "profile", "bf16", "i8mm", "memtag",
      "sve2-bitperm", "sb", "pauth", "fp16", "fp16fml", "predres", "flagm", "ssbs"]⟩,
  ⟨"cortex-x4", "armv9.2-a", ["sb", "ssbs", "memtag", "fp16fml", "pauth", "sve2-bitperm",
      "flagm", "perfmon", "predres", "profile"]⟩,
  ⟨"neoverse-e1", "armv8.2-a", ["aes", "sha2", "dotprod", "fp16", "rcpc", "ssbs"]⟩,
  ⟨"neoverse-n1", "armv8.2-a", ["aes", "sha2", "dotprod", "fp16", "profile", "rcpc", "ssbs"]⟩,
  ⟨"neoverse-n2", "armv9-a", ["bf16", "dotprod", "fp16", "fp16fml", "i8mm", "memtag", "sb",
      "ssbs", "sve", "sve2", "sve2-bitperm"]⟩,
  ⟨"neoverse-n3", "armv9.2-a", ["memtag", "ssbs", "sb", "predres", "fp16fml", "pauth", "flagm",
      "perfmon", "rng", "sve2-bitperm", "profile"]⟩,
  ⟨"neoverse-512tvb", "armv8.4-a", ["aes", "sha2", "sha3", "sm4", "sve", "ssbs", "fp16",
      "bf16", "dotprod", "profile", "rng", "fp16fml", "i8mm"]⟩,
  ⟨"neoverse-v1", "armv8.4-a", ["aes", "sha2", "sha3", "sm4", "sve", "ssbs", "fp16", "bf16",
      "dotprod", "profile", "rng", "fp16fml", "i8mm"]⟩,
  ⟨"neoverse-v2", "armv9-a", ["sve", "sve2", "ssbs", "fp16", "bf16", "rng", "dotprod",
      "profile", "sve2-bitperm", "fp16fml", "i8mm", "memtag"]⟩,
  ⟨"neoverse-v3", "armv9.2-a", ["profile", "memtag", "ssbs", "sb", "predres", "ls64", "brbe",
      "pauth", "flagm", "perfmon", "rng", "sve2-bitperm", "fp16fml"]⟩,
  ⟨"neoverse-v3ae", "armv9.2-a", ["profile", "memtag", "ssbs", "sb", "predres", "ls64", "brbe",
      "pauth", "flagm", "perfmon", "rng", "sve2-bitperm", "fp16fml"]⟩,
  ⟨"cyclone", "armv8-a", ["aes", "sha2"]⟩,
  ⟨"apple-a7", "armv8-a", ["aes", "sha2"]⟩,
  ⟨"apple-a8", "armv8-a", ["aes", "sha2"]⟩,
  ⟨"apple-a9", "armv8-a", ["aes", "sha2"]⟩,
  ⟨"apple-a10", "armv8-a", ["aes", "sha2", "crc", "rdm"]⟩,
  ⟨"apple-a11", "armv8.2-a", ["aes", "sha2", "fp16"]⟩,
  ⟨"apple-a12", "armv8.3-a", ["aes", "sha2", "fp16"]⟩,
  ⟨"apple-a13", "armv8.4-a", ["aes", "sha2", "sha3", "fp16", "fp16fml"]⟩,
  ⟨"apple-a14", "armv8.5-a", ["aes", "sha2", "sha3", "fp16", "fp16fml"]⟩,
  ⟨"apple-a15", "armv8.6-a", ["aes", "sha2", "sha3", "fp16", "fp16fml"]⟩,
  ⟨"apple-a16", "armv8.6-a", ["aes", "sha2", "sha3", "fp16", "fp16fml"]⟩,
  ⟨"apple-a17", "armv8.6-a", ["aes", "sha2", "sha3", "fp16", "fp16fml"]⟩,
  ⟨"apple-m1", "armv8.5-a", ["aes", "sha2", "sha3", "fp16", "fp16fml"]⟩,
  ⟨"apple-m2", "armv8.6-a", ["aes", "sha2", "sha3", "fp16", "fp16fml"]⟩,
  ⟨"apple-m3", "armv8.6-a", ["aes", "sha2", "sha3", "fp16", "fp16fml"]⟩,
  ⟨"apple-s4", "armv8.3-a", ["aes", "sha2", "fp16"]⟩,
  ⟨"apple-s5", "armv8.3-a", ["aes", "sha2", "fp16"]⟩,
  ⟨"exynos-m3", "armv8-a", ["aes", "sha2", "crc"]⟩,
  ⟨"exynos-m4", "armv8.2-a", ["aes", "sha2", "dotprod", "fp16"]⟩,
  ⟨"exynos-m5", "armv8.2-a", ["aes", "sha2", "dotprod", "fp16"]⟩,
  ⟨"falkor", "armv8-a", ["aes", "sha2", "crc", "rdm"]⟩,
  ⟨"saphira", "armv8.3-a", ["aes", "sha2", "profile"]⟩,
  ⟨"kryo", "armv8-a", ["aes", "sha2", "crc"]⟩,
  ⟨"thunderx2t99", "armv8.1-a", ["aes", "sha2"]⟩,
  ⟨"thunderx3t110", "armv8.3-a", ["aes", "sha2"]⟩,
  ⟨"thunderx", "armv8-a", ["aes", "sha2", "crc"]⟩,
  ⟨"thunderxt88", "armv8-a", ["aes", "sha2", "crc"]⟩,
  ⟨"thunderxt81", "armv8-a", ["aes", "sha2", "crc"]⟩,
  ⟨"thunderxt83", "armv8-a", ["aes", "sha2", "crc"]⟩,
  ⟨"tsv110", "armv8.2-a", ["aes", "sha2", "dotprod", "fp16", "fp16fml", "profile", "jscvt",
      "fcma"]⟩,
  ⟨"a64fx", "armv8.2-a", ["aes", "sha2", "fp16", "sve"]⟩,
  ⟨"carmel", "armv8.2-a", ["aes", "sha2", "fp16"]⟩,
  ⟨"ampere1", "armv8.6-a", ["aes", "sha2", "sha3", "fp16", "sb", "ssbs", "rng"]⟩,
  ⟨"ampere1a", "armv8.6-a", ["fp16", "rng", "sm4", "sha3", "sha2", "aes", "memtag", "sb",
      "ssbs"]⟩,
  ⟨"ampere1b", "armv8.7-a", ["fp16", "rng", "sm4", "sha3", "sha2", "aes", "memtag", "sb",
      "ssbs", "cssc"]⟩]

/-- The whole description. -/
def spec : CatalogSpec where
  extensions := extensions
  dependencies := dependencies
  architectures := architectures
  processors := processors
  cpuAliases := .ofList [("cobalt-100", "neoverse-n2"), ("grace", "neoverse-v2")]
  extensionAliases := .ofList [("rdma", "rdm")]

/-- The catalog of the description, or the reason why it has none. -/
def catalog : Except CatalogError ModelCatalog := ModelCatalog.build spec

end TargetFeatures.Bundled
