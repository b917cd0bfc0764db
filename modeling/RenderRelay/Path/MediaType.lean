import RenderRelay.Path.Name
import RenderRelay.Text.Lowercase

/-! # Media types

`mediaType?` guesses the media type of a file from the extension of its name.

* The extension starts at the last dot of the name, unless only dots stand before it.
* Short forms of packed archives are written out first, and the extension of a packing is
  dropped, so that the type is that of what is packed.
* A name that starts with a scheme is taken for a URL, of which the path counts. -/

namespace RenderRelay.Path

open Text

/-- The media types of known extensions. -/
def mediaTypes : List (String × String) :=
  [(".js", "application/javascript"), (".mjs", "application/javascript"),
    (".json", "application/json"), (".webmanifest", "application/manifest+json"),
    (".doc", "application/msword"), (".dot", "application/msword"),
    (".wiz", "application/msword"), (".nq", "application/n-quads"),
    (".nt", "application/n-triples"), (".bin", "application/octet-stream"),
    (".a", "application/octet-stream"), (".dll", "application/octet-stream"),
    (".exe", "application/octet-stream"), (".o", "application/octet-stream"),
    (".obj", "application/octet-stream"), (".so", "application/octet-stream"),
    (".oda", "application/oda"), (".pdf", "application/pdf"), (".p7c", "application/pkcs7-mime"),
    (".ps", "application/postscript"), (".ai", "application/postscript"),
    (".eps", "application/postscript"), (".trig", "application/trig"),
    (".m3u", "application/vnd.apple.mpegurl"), (".m3u8", "application/vnd.apple.mpegurl"),
    (".xls", "application/vnd.ms-excel"), (".xlb", "application/vnd.ms-excel"),
    (".ppt", "application/vnd.ms-powerpoint"), (".pot", "application/vnd.ms-powerpoint"),
    (".ppa", "application/vnd.ms-powerpoint"), (".pps", "application/vnd.ms-powerpoint"),
    (".pwz", "application/vnd.ms-powerpoint"), (".wasm", "application/wasm"),
    (".bcpio", "application/x-bcpio"), (".cpio", "application/x-cpio"),
    (".csh", "application/x-csh"), (".dvi", "application/x-dvi"), (".gtar", "application/x-gtar"),
    (".hdf", "application/x-hdf"), (".h5", "application/x-hdf5"),
    (".latex", "application/x-latex"), (".mif", "application/x-mif"),
    (".cdf", "application/x-netcdf"), (".nc", "application/x-netcdf"),
    (".p12", "application/x-pkcs12"), (".pfx", "application/x-pkcs12"),
    (".ram", "application/x-pn-realaudio"), (".pyc", "application/x-python-code"),
    (".pyo", "application/x-python-code"), (".sh", "application/x-sh"),
    (".shar", "application/x-shar"), (".swf", "application/x-shockwave-flash"),
    (".sv4cpio", "application/x-sv4cpio"), (".sv4crc", "application/x-sv4crc"),
    (".tar", "application/x-tar"), (".tcl", "application/x-tcl"), (".tex", "application/x-tex"),
    (".texi", "application/x-texinfo"), (".texinfo", "application/x-texinfo"),
    (".roff", "application/x-troff"), (".t", "application/x-troff"),
    (".tr", "application/x-troff"), (".man", "application/x-troff-man"),
    (".me", "application/x-troff-me"), (".ms", "application/x-troff-ms"),
    (".ustar", "application/x-ustar"), (".src", "application/x-wais-source"),
    (".xsl", "application/xml"), (".rdf", "application/xml"), (".wsdl", "application/xml"),
    (".xpdl", "application/xml"), (".zip", "application/zip"), (".3gp", "audio/3gpp"),
    (".3gpp", "audio/3gpp"), (".3g2", "audio/3gpp2"), (".3gpp2", "audio/3gpp2"),
    (".aac", "audio/aac"), (".adts", "audio/aac"), (".loas", "audio/aac"), (".ass", "audio/aac"),
    (".au", "audio/basic"), (".snd", "audio/basic"), (".mp3", "audio/mpeg"),
    (".mp2", "audio/mpeg"), (".opus", "audio/opus"), (".aif", "audio/x-aiff"),
    (".aifc", "audio/x-aiff"), (".aiff", "audio/x-aiff"), (".ra", "audio/x-pn-realaudio"),
    (".wav", "audio/x-wav"), (".avif", "image/avif"), (".bmp", "image/bmp"),
    (".gif", "image/gif"), (".ief", "image/ief"), (".jpg", "image/jpeg"), (".jpe", "image/jpeg"),
    (".jpeg", "image/jpeg"), (".heic", "image/heic"), (".heif", "image/heif"),
    (".png", "image/png"), (".svg", "image/svg+xml"), (".tiff", "image/tiff"),
    (".tif", "image/tiff"), (".ico", "image/vnd.microsoft.icon"), (".ras", "image/x-cmu-raster"),
    (".pnm", "image/x-portable-anymap"), (".pbm", "image/x-portable-bitmap"),
    (".pgm", "image/x-portable-graymap"), (".ppm", "image/x-portable-pixmap"),
    (".rgb", "image/x-rgb"), (".xbm", "image/x-xbitmap"), (".xpm", "image/x-xpixmap"),
    (".xwd", "image/x-xwindowdump"), (".eml", "message/rfc822"), (".mht", "message/rfc822"),
    (".mhtml", "message/rfc822"), (".nws", "message/rfc822"), (".css", "text/css"),
    (".csv", "text/csv"), (".html", "text/html"), (".htm", "text/html"), (".n3", "text/n3"),
    (".txt", "text/plain"), (".bat", "text/plain"), (".c", "text/plain"), (".h", "text/plain"),
    (".ksh", "text/plain"), (".pl", "text/plain"), (".srt", "text/plain"),
    (".rtx", "text/richtext"), (".tsv", "text/tab-separated-values"), (".vtt", "text/vtt"),
    (".py", "text/x-python"), (".etx", "text/x-setext"), (".sgm", "text/x-sgml"),
    (".sgml", "text/x-sgml"), (".vcf", "text/x-vcard"), (".xml", "text/xml"),
    (".mp4", "video/mp4"), (".mpeg", "video/mpeg"), (".m1v", "video/mpeg"),
    (".mpa", "video/mpeg"), (".mpe", "video/mpeg"), (".mpg", "video/mpeg"),
    (".mov", "video/quicktime"), (".qt", "video/quicktime"), (".webm", "video/webm"),
    (".avi", "video/x-msvideo"), (".movie", "video/x-sgi-movie")]

/-- Short forms of two extensions. -/
def shortSuffixes : List (String × String) :=
  [(".svgz", ".svg.gz"), (".tgz", ".tar.gz"), (".taz", ".tar.gz"), (".tz", ".tar.gz"),
    (".tbz2", ".tar.bz2"), (".txz", ".tar.xz")]

/-- The extensions of packings. -/
def packings : List String := [".gz", ".Z", ".bz2", ".xz", ".br"]

/-- A path before its extension, and the extension with its dot. -/
def splitSuffix (path : List Char) : List Char × List Char :=
  let name := (path.reverse.takeWhile (· ≠ '/')).reverse
  let after := (name.reverse.takeWhile (· ≠ '.')).reverse
  let before := name.take (name.length - after.length - 1)
  if name.contains '.' && before.any (· ≠ '.') then
    (path.take (path.length - after.length - 1), '.' :: after)
  else (path, [])

/-- A path whose extension is no short form; no short form stands for another. -/
def expandSuffix (path : List Char) : List Char :=
  let (before, suffix) := splitSuffix path
  match shortSuffixes.lookup (lower (String.ofList suffix)) with
  | some long => before ++ long.toList
  | none => path

/-- A path without the extension of a packing. -/
def dropPacking (path : List Char) : List Char :=
  let (before, suffix) := splitSuffix path
  if packings.contains (String.ofList suffix) then before else path

/-- Characters of a scheme. -/
def isUrlSchemeChar (c : Char) : Bool :=
  (c.toNat < 0x80 && c.isAlphanum) || c = '+' || c = '-' || c = '.'

/-- The path of a URL after its scheme. -/
def urlPath (rest : List Char) : List Char :=
  let afterHost := match rest with
    | '/' :: '/' :: more => more.dropWhile fun c => c ≠ '/' && c ≠ '?' && c ≠ '#'
    | rest => rest
  afterHost.takeWhile fun c => c ≠ '?' && c ≠ '#'

/-- The scheme of a name and what follows it, if the name starts with a scheme of two letters
or more. -/
def splitScheme (name : List Char) : Option (List Char × List Char) :=
  let scheme := name.takeWhile (· ≠ ':')
  match name.dropWhile (· ≠ ':'), scheme.head? with
  | ':' :: rest, some first =>
      if 1 < scheme.length && scheme.all isUrlSchemeChar && first.isAlpha then
        some (scheme, urlPath rest)
      else none
  | _, _ => none

/-- The media type that stands before the data in a name that carries its data. -/
def dataType? (path : List Char) : Option String :=
  if path.contains ',' then
    let mediaType := (path.takeWhile (· ≠ ',')).takeWhile (· ≠ ';')
    if mediaType.contains '=' || !mediaType.contains '/' then some "text/plain"
    else some (String.ofList mediaType)
  else none

/-- The media type of a path, by its extension. -/
def typeOfPath? (path : List Char) : Option String :=
  mediaTypes.lookup (lower (String.ofList (splitSuffix (dropPacking (expandSuffix path))).2))

/-- The media type of a file of this name, which may be a URL. -/
def mediaType? (name : String) : Option String :=
  match splitScheme name.toList with
  | some (scheme, path) =>
      if lower (String.ofList scheme) = "data" then dataType? path else typeOfPath? path
  | none => typeOfPath? name.toList

end RenderRelay.Path
