import TreeSelect.Markup.Dom

namespace TreeSelect.Markup

def svgTagNames : List (String × String) :=
  [("altglyph", "altGlyph"), ("altglyphdef", "altGlyphDef"), ("altglyphitem", "altGlyphItem"),
   ("animatecolor", "animateColor"), ("animatemotion", "animateMotion"),
   ("animatetransform", "animateTransform"), ("clippath", "clipPath"), ("feblend", "feBlend"),
   ("fecolormatrix", "feColorMatrix"), ("fecomponenttransfer", "feComponentTransfer"),
   ("fecomposite", "feComposite"), ("feconvolvematrix", "feConvolveMatrix"),
   ("fediffuselighting", "feDiffuseLighting"), ("fedisplacementmap", "feDisplacementMap"),
   ("fedistantlight", "feDistantLight"), ("fedropshadow", "feDropShadow"),
   ("feflood", "feFlood"), ("fefunca", "feFuncA"), ("fefuncb", "feFuncB"),
   ("fefuncg", "feFuncG"), ("fefuncr", "feFuncR"), ("fegaussianblur", "feGaussianBlur"),
   ("feimage", "feImage"), ("femerge", "feMerge"), ("femergenode", "feMergeNode"),
   ("femorphology", "feMorphology"), ("feoffset", "feOffset"),
   ("fepointlight", "fePointLight"), ("fespecularlighting", "feSpecularLighting"),
   ("fespotlight", "feSpotLight"), ("fetile", "feTile"), ("feturbulence", "feTurbulence"),
   ("foreignobject", "foreignObject"), ("glyphref", "glyphRef"),
   ("lineargradient", "linearGradient"), ("radialgradient", "radialGradient"),
   ("textpath", "textPath")]

def svgAttrNames : List (String × String) :=
  [("attributename", "attributeName"), ("attributetype", "attributeType"),
   ("basefrequency", "baseFrequency"), ("baseprofile", "baseProfile"), ("calcmode", "calcMode"),
   ("clippathunits", "clipPathUnits"), ("diffuseconstant", "diffuseConstant"),
   ("edgemode", "edgeMode"), ("filterunits", "filterUnits"), ("glyphref", "glyphRef"),
   ("gradienttransform", "gradientTransform"), ("gradientunits", "gradientUnits"),
   ("kernelmatrix", "kernelMatrix"), ("kernelunitlength", "kernelUnitLength"),
   ("keypoints", "keyPoints"), ("keysplines", "keySplines"), ("keytimes", "keyTimes"),
   ("lengthadjust", "lengthAdjust"), ("limitingconeangle", "limitingConeAngle"),
   ("markerheight", "markerHeight"), ("markerunits", "markerUnits"),
   ("markerwidth", "markerWidth"), ("maskcontentunits", "maskContentUnits"),
   ("maskunits", "maskUnits"), ("numoctaves", "numOctaves"), ("pathlength", "pathLength"),
   ("patterncontentunits", "patternContentUnits"), ("patterntransform", "patternTransform"),
   ("patternunits", "patternUnits"), ("pointsatx", "pointsAtX"), ("pointsaty", "pointsAtY"),
   ("pointsatz", "pointsAtZ"), ("preservealpha", "preserveAlpha"),
   ("preserveaspectratio", "preserveAspectRatio"), ("primitiveunits", "primitiveUnits"),
   ("refx", "refX"), ("refy", "refY"), ("repeatcount", "repeatCount"),
   ("repeatdur", "repeatDur"), ("requiredextensions", "requiredExtensions"),
   ("requiredfeatures", "requiredFeatures"), ("specularconstant", "specularConstant"),
   ("specularexponent", "specularExponent"), ("spreadmethod", "spreadMethod"),
   ("startoffset", "startOffset"), ("stddeviation", "stdDeviation"),
   ("stitchtiles", "stitchTiles"), ("surfacescale", "surfaceScale"),
   ("systemlanguage", "systemLanguage"), ("tablevalues", "tableValues"),
   ("targetx", "targetX"), ("targety", "targetY"), ("textlength", "textLength"),
   ("viewbox", "viewBox"), ("viewtarget", "viewTarget"),
   ("xchannelselector", "xChannelSelector"), ("ychannelselector", "yChannelSelector"),
   ("zoomandpan", "zoomAndPan")]

def foreignAttrNames : List (String × AttrNs × String) :=
  [("xlink:actuate", .xlink, "actuate"), ("xlink:arcrole", .xlink, "arcrole"),
   ("xlink:href", .xlink, "href"), ("xlink:role", .xlink, "role"),
   ("xlink:show", .xlink, "show"), ("xlink:title", .xlink, "title"),
   ("xlink:type", .xlink, "type"), ("xml:lang", .xml, "lang"), ("xml:space", .xml, "space"),
   ("xmlns", .xmlns, "xmlns"), ("xmlns:xlink", .xmlns, "xlink")]

def renamed (table : List (String × String)) (n : String) : String := (table.lookup n).getD n

def plainAttrs (as : List Attr) : List Attribute :=
  as.map fun a => { name := a.name, value := a.value }

def foreignAttrs (ns : Ns) (as : List Attr) : List Attribute :=
  as.map fun a =>
    let n := match ns with
      | .svg => renamed svgAttrNames a.name
      | .mathml => if a.name == "definitionurl" then "definitionURL" else a.name
      | .html => a.name
    match foreignAttrNames.find? (·.1 == n) with
    | some (_, ans, ln) => { ns := ans, name := ln, value := a.value }
    | none => { name := n, value := a.value }

namespace Dom

def isIn (d : Dom) (ns : Ns) (id : Nat) (names : List String) : Bool :=
  match d.name? id with
  | some (ns', n) => ns' == ns && names.contains n
  | none => false

def isMathmlTextPoint (d : Dom) (id : Nat) : Bool :=
  d.isIn .mathml id ["mi", "mo", "mn", "ms", "mtext"]

def isSvgHtmlPoint (d : Dom) (id : Nat) : Bool := d.isIn .svg id ["foreignObject", "desc", "title"]

def isAnnotationHtmlPoint (d : Dom) (id : Nat) : Bool :=
  d.isIn .mathml id ["annotation-xml"] &&
    (d.attrs id).any fun a => a.ns == .none && a.name == "encoding" &&
      ["text/html", "application/xhtml+xml"].contains (lowerAsciiString a.value)

end Dom

end TreeSelect.Markup
