import Std.Data.HashMap

namespace TreeSelect.Markup

/-- The references, several to a string and one per line: the name, a space, and its code points
in hexadecimal separated by commas. -/
def entityLines : List String :=
  ["AElig C6\nAElig; C6\nAMP 26\nAMP; 26\nAacute C1\nAacute; C1\nAbreve; 102\nAcirc C2\nAcirc; C2",
    "Acy; 410\nAfr; 1D504\nAgrave C0\nAgrave; C0\nAlpha; 391\nAmacr; 100\nAnd; 2A53\nAogon; 104",
    "Aopf; 1D538\nApplyFunction; 2061\nAring C5\nAring; C5\nAscr; 1D49C\nAssign; 2254\nAtilde C3",
    "Atilde; C3\nAuml C4\nAuml; C4\nBackslash; 2216\nBarv; 2AE7\nBarwed; 2306\nBcy; 411\nBecause; 2235",
    "Bernoullis; 212C\nBeta; 392\nBfr; 1D505\nBopf; 1D539\nBreve; 2D8\nBscr; 212C\nBumpeq; 224E",
    "CHcy; 427\nCOPY A9\nCOPY; A9\nCacute; 106\nCap; 22D2\nCapitalDifferentialD; 2145\nCayleys; 212D",
    "Ccaron; 10C\nCcedil C7\nCcedil; C7\nCcirc; 108\nCconint; 2230\nCdot; 10A\nCedilla; B8\nCenterDot; B7",
    "Cfr; 212D\nChi; 3A7\nCircleDot; 2299\nCircleMinus; 2296\nCirclePlus; 2295\nCircleTimes; 2297",
    "ClockwiseContourIntegral; 2232\nCloseCurlyDoubleQuote; 201D\nCloseCurlyQuote; 2019\nColon; 2237",
    "Colone; 2A74\nCongruent; 2261\nConint; 222F\nContourIntegral; 222E\nCopf; 2102\nCoproduct; 2210",
    "CounterClockwiseContourIntegral; 2233\nCross; 2A2F\nCscr; 1D49E\nCup; 22D3\nCupCap; 224D",
    "DD; 2145\nDDotrahd; 2911\nDJcy; 402\nDScy; 405\nDZcy; 40F\nDagger; 2021\nDarr; 21A1\nDashv; 2AE4",
    "Dcaron; 10E\nDcy; 414\nDel; 2207\nDelta; 394\nDfr; 1D507\nDiacriticalAcute; B4\nDiacriticalDot; 2D9",
    "DiacriticalDoubleAcute; 2DD\nDiacriticalGrave; 60\nDiacriticalTilde; 2DC\nDiamond; 22C4",
    "DifferentialD; 2146\nDopf; 1D53B\nDot; A8\nDotDot; 20DC\nDotEqual; 2250\nDoubleContourIntegral; 222F",
    "DoubleDot; A8\nDoubleDownArrow; 21D3\nDoubleLeftArrow; 21D0\nDoubleLeftRightArrow; 21D4",
    "DoubleLeftTee; 2AE4\nDoubleLongLeftArrow; 27F8\nDoubleLongLeftRightArrow; 27FA\nDoubleLongRightArrow; 27F9",
    "DoubleRightArrow; 21D2\nDoubleRightTee; 22A8\nDoubleUpArrow; 21D1\nDoubleUpDownArrow; 21D5",
    "DoubleVerticalBar; 2225\nDownArrow; 2193\nDownArrowBar; 2913\nDownArrowUpArrow; 21F5",
    "DownBreve; 311\nDownLeftRightVector; 2950\nDownLeftTeeVector; 295E\nDownLeftVector; 21BD",
    "DownLeftVectorBar; 2956\nDownRightTeeVector; 295F\nDownRightVector; 21C1\nDownRightVectorBar; 2957",
    "DownTee; 22A4\nDownTeeArrow; 21A7\nDownarrow; 21D3\nDscr; 1D49F\nDstrok; 110\nENG; 14A",
    "ETH D0\nETH; D0\nEacute C9\nEacute; C9\nEcaron; 11A\nEcirc CA\nEcirc; CA\nEcy; 42D\nEdot; 116",
    "Efr; 1D508\nEgrave C8\nEgrave; C8\nElement; 2208\nEmacr; 112\nEmptySmallSquare; 25FB\nEmptyVerySmallSquare; 25AB",
    "Eogon; 118\nEopf; 1D53C\nEpsilon; 395\nEqual; 2A75\nEqualTilde; 2242\nEquilibrium; 21CC",
    "Escr; 2130\nEsim; 2A73\nEta; 397\nEuml CB\nEuml; CB\nExists; 2203\nExponentialE; 2147\nFcy; 424",
    "Ffr; 1D509\nFilledSmallSquare; 25FC\nFilledVerySmallSquare; 25AA\nFopf; 1D53D\nForAll; 2200",
    "Fouriertrf; 2131\nFscr; 2131\nGJcy; 403\nGT 3E\nGT; 3E\nGamma; 393\nGammad; 3DC\nGbreve; 11E",
    "Gcedil; 122\nGcirc; 11C\nGcy; 413\nGdot; 120\nGfr; 1D50A\nGg; 22D9\nGopf; 1D53E\nGreaterEqual; 2265",
    "GreaterEqualLess; 22DB\nGreaterFullEqual; 2267\nGreaterGreater; 2AA2\nGreaterLess; 2277",
    "GreaterSlantEqual; 2A7E\nGreaterTilde; 2273\nGscr; 1D4A2\nGt; 226B\nHARDcy; 42A\nHacek; 2C7",
    "Hat; 5E\nHcirc; 124\nHfr; 210C\nHilbertSpace; 210B\nHopf; 210D\nHorizontalLine; 2500\nHscr; 210B",
    "Hstrok; 126\nHumpDownHump; 224E\nHumpEqual; 224F\nIEcy; 415\nIJlig; 132\nIOcy; 401\nIacute CD",
    "Iacute; CD\nIcirc CE\nIcirc; CE\nIcy; 418\nIdot; 130\nIfr; 2111\nIgrave CC\nIgrave; CC\nIm; 2111",
    "Imacr; 12A\nImaginaryI; 2148\nImplies; 21D2\nInt; 222C\nIntegral; 222B\nIntersection; 22C2",
    "InvisibleComma; 2063\nInvisibleTimes; 2062\nIogon; 12E\nIopf; 1D540\nIota; 399\nIscr; 2110",
    "Itilde; 128\nIukcy; 406\nIuml CF\nIuml; CF\nJcirc; 134\nJcy; 419\nJfr; 1D50D\nJopf; 1D541",
    "Jscr; 1D4A5\nJsercy; 408\nJukcy; 404\nKHcy; 425\nKJcy; 40C\nKappa; 39A\nKcedil; 136\nKcy; 41A",
    "Kfr; 1D50E\nKopf; 1D542\nKscr; 1D4A6\nLJcy; 409\nLT 3C\nLT; 3C\nLacute; 139\nLambda; 39B",
    "Lang; 27EA\nLaplacetrf; 2112\nLarr; 219E\nLcaron; 13D\nLcedil; 13B\nLcy; 41B\nLeftAngleBracket; 27E8",
    "LeftArrow; 2190\nLeftArrowBar; 21E4\nLeftArrowRightArrow; 21C6\nLeftCeiling; 2308\nLeftDoubleBracket; 27E6",
    "LeftDownTeeVector; 2961\nLeftDownVector; 21C3\nLeftDownVectorBar; 2959\nLeftFloor; 230A",
    "LeftRightArrow; 2194\nLeftRightVector; 294E\nLeftTee; 22A3\nLeftTeeArrow; 21A4\nLeftTeeVector; 295A",
    "LeftTriangle; 22B2\nLeftTriangleBar; 29CF\nLeftTriangleEqual; 22B4\nLeftUpDownVector; 2951",
    "LeftUpTeeVector; 2960\nLeftUpVector; 21BF\nLeftUpVectorBar; 2958\nLeftVector; 21BC\nLeftVectorBar; 2952",
    "Leftarrow; 21D0\nLeftrightarrow; 21D4\nLessEqualGreater; 22DA\nLessFullEqual; 2266\nLessGreater; 2276",
    "LessLess; 2AA1\nLessSlantEqual; 2A7D\nLessTilde; 2272\nLfr; 1D50F\nLl; 22D8\nLleftarrow; 21DA",
    "Lmidot; 13F\nLongLeftArrow; 27F5\nLongLeftRightArrow; 27F7\nLongRightArrow; 27F6\nLongleftarrow; 27F8",
    "Longleftrightarrow; 27FA\nLongrightarrow; 27F9\nLopf; 1D543\nLowerLeftArrow; 2199\nLowerRightArrow; 2198",
    "Lscr; 2112\nLsh; 21B0\nLstrok; 141\nLt; 226A\nMap; 2905\nMcy; 41C\nMediumSpace; 205F\nMellintrf; 2133",
    "Mfr; 1D510\nMinusPlus; 2213\nMopf; 1D544\nMscr; 2133\nMu; 39C\nNJcy; 40A\nNacute; 143\nNcaron; 147",
    "Ncedil; 145\nNcy; 41D\nNegativeMediumSpace; 200B\nNegativeThickSpace; 200B\nNegativeThinSpace; 200B",
    "NegativeVeryThinSpace; 200B\nNestedGreaterGreater; 226B\nNestedLessLess; 226A\nNewLine; A",
    "Nfr; 1D511\nNoBreak; 2060\nNonBreakingSpace; A0\nNopf; 2115\nNot; 2AEC\nNotCongruent; 2262",
    "NotCupCap; 226D\nNotDoubleVerticalBar; 2226\nNotElement; 2209\nNotEqual; 2260\nNotEqualTilde; 2242,338",
    "NotExists; 2204\nNotGreater; 226F\nNotGreaterEqual; 2271\nNotGreaterFullEqual; 2267,338",
    "NotGreaterGreater; 226B,338\nNotGreaterLess; 2279\nNotGreaterSlantEqual; 2A7E,338\nNotGreaterTilde; 2275",
    "NotHumpDownHump; 224E,338\nNotHumpEqual; 224F,338\nNotLeftTriangle; 22EA\nNotLeftTriangleBar; 29CF,338",
    "NotLeftTriangleEqual; 22EC\nNotLess; 226E\nNotLessEqual; 2270\nNotLessGreater; 2278\nNotLessLess; 226A,338",
    "NotLessSlantEqual; 2A7D,338\nNotLessTilde; 2274\nNotNestedGreaterGreater; 2AA2,338\nNotNestedLessLess; 2AA1,338",
    "NotPrecedes; 2280\nNotPrecedesEqual; 2AAF,338\nNotPrecedesSlantEqual; 22E0\nNotReverseElement; 220C",
    "NotRightTriangle; 22EB\nNotRightTriangleBar; 29D0,338\nNotRightTriangleEqual; 22ED\nNotSquareSubset; 228F,338",
    "NotSquareSubsetEqual; 22E2\nNotSquareSuperset; 2290,338\nNotSquareSupersetEqual; 22E3",
    "NotSubset; 2282,20D2\nNotSubsetEqual; 2288\nNotSucceeds; 2281\nNotSucceedsEqual; 2AB0,338",
    "NotSucceedsSlantEqual; 22E1\nNotSucceedsTilde; 227F,338\nNotSuperset; 2283,20D2\nNotSupersetEqual; 2289",
    "NotTilde; 2241\nNotTildeEqual; 2244\nNotTildeFullEqual; 2247\nNotTildeTilde; 2249\nNotVerticalBar; 2224",
    "Nscr; 1D4A9\nNtilde D1\nNtilde; D1\nNu; 39D\nOElig; 152\nOacute D3\nOacute; D3\nOcirc D4",
    "Ocirc; D4\nOcy; 41E\nOdblac; 150\nOfr; 1D512\nOgrave D2\nOgrave; D2\nOmacr; 14C\nOmega; 3A9",
    "Omicron; 39F\nOopf; 1D546\nOpenCurlyDoubleQuote; 201C\nOpenCurlyQuote; 2018\nOr; 2A54",
    "Oscr; 1D4AA\nOslash D8\nOslash; D8\nOtilde D5\nOtilde; D5\nOtimes; 2A37\nOuml D6\nOuml; D6",
    "OverBar; 203E\nOverBrace; 23DE\nOverBracket; 23B4\nOverParenthesis; 23DC\nPartialD; 2202",
    "Pcy; 41F\nPfr; 1D513\nPhi; 3A6\nPi; 3A0\nPlusMinus; B1\nPoincareplane; 210C\nPopf; 2119",
    "Pr; 2ABB\nPrecedes; 227A\nPrecedesEqual; 2AAF\nPrecedesSlantEqual; 227C\nPrecedesTilde; 227E",
    "Prime; 2033\nProduct; 220F\nProportion; 2237\nProportional; 221D\nPscr; 1D4AB\nPsi; 3A8",
    "QUOT 22\nQUOT; 22\nQfr; 1D514\nQopf; 211A\nQscr; 1D4AC\nRBarr; 2910\nREG AE\nREG; AE\nRacute; 154",
    "Rang; 27EB\nRarr; 21A0\nRarrtl; 2916\nRcaron; 158\nRcedil; 156\nRcy; 420\nRe; 211C\nReverseElement; 220B",
    "ReverseEquilibrium; 21CB\nReverseUpEquilibrium; 296F\nRfr; 211C\nRho; 3A1\nRightAngleBracket; 27E9",
    "RightArrow; 2192\nRightArrowBar; 21E5\nRightArrowLeftArrow; 21C4\nRightCeiling; 2309",
    "RightDoubleBracket; 27E7\nRightDownTeeVector; 295D\nRightDownVector; 21C2\nRightDownVectorBar; 2955",
    "RightFloor; 230B\nRightTee; 22A2\nRightTeeArrow; 21A6\nRightTeeVector; 295B\nRightTriangle; 22B3",
    "RightTriangleBar; 29D0\nRightTriangleEqual; 22B5\nRightUpDownVector; 294F\nRightUpTeeVector; 295C",
    "RightUpVector; 21BE\nRightUpVectorBar; 2954\nRightVector; 21C0\nRightVectorBar; 2953",
    "Rightarrow; 21D2\nRopf; 211D\nRoundImplies; 2970\nRrightarrow; 21DB\nRscr; 211B\nRsh; 21B1",
    "RuleDelayed; 29F4\nSHCHcy; 429\nSHcy; 428\nSOFTcy; 42C\nSacute; 15A\nSc; 2ABC\nScaron; 160",
    "Scedil; 15E\nScirc; 15C\nScy; 421\nSfr; 1D516\nShortDownArrow; 2193\nShortLeftArrow; 2190",
    "ShortRightArrow; 2192\nShortUpArrow; 2191\nSigma; 3A3\nSmallCircle; 2218\nSopf; 1D54A",
    "Sqrt; 221A\nSquare; 25A1\nSquareIntersection; 2293\nSquareSubset; 228F\nSquareSubsetEqual; 2291",
    "SquareSuperset; 2290\nSquareSupersetEqual; 2292\nSquareUnion; 2294\nSscr; 1D4AE\nStar; 22C6",
    "Sub; 22D0\nSubset; 22D0\nSubsetEqual; 2286\nSucceeds; 227B\nSucceedsEqual; 2AB0\nSucceedsSlantEqual; 227D",
    "SucceedsTilde; 227F\nSuchThat; 220B\nSum; 2211\nSup; 22D1\nSuperset; 2283\nSupersetEqual; 2287",
    "Supset; 22D1\nTHORN DE\nTHORN; DE\nTRADE; 2122\nTSHcy; 40B\nTScy; 426\nTab; 9\nTau; 3A4\nTcaron; 164",
    "Tcedil; 162\nTcy; 422\nTfr; 1D517\nTherefore; 2234\nTheta; 398\nThickSpace; 205F,200A\nThinSpace; 2009",
    "Tilde; 223C\nTildeEqual; 2243\nTildeFullEqual; 2245\nTildeTilde; 2248\nTopf; 1D54B\nTripleDot; 20DB",
    "Tscr; 1D4AF\nTstrok; 166\nUacute DA\nUacute; DA\nUarr; 219F\nUarrocir; 2949\nUbrcy; 40E",
    "Ubreve; 16C\nUcirc DB\nUcirc; DB\nUcy; 423\nUdblac; 170\nUfr; 1D518\nUgrave D9\nUgrave; D9",
    "Umacr; 16A\nUnderBar; 5F\nUnderBrace; 23DF\nUnderBracket; 23B5\nUnderParenthesis; 23DD",
    "Union; 22C3\nUnionPlus; 228E\nUogon; 172\nUopf; 1D54C\nUpArrow; 2191\nUpArrowBar; 2912",
    "UpArrowDownArrow; 21C5\nUpDownArrow; 2195\nUpEquilibrium; 296E\nUpTee; 22A5\nUpTeeArrow; 21A5",
    "Uparrow; 21D1\nUpdownarrow; 21D5\nUpperLeftArrow; 2196\nUpperRightArrow; 2197\nUpsi; 3D2",
    "Upsilon; 3A5\nUring; 16E\nUscr; 1D4B0\nUtilde; 168\nUuml DC\nUuml; DC\nVDash; 22AB\nVbar; 2AEB",
    "Vcy; 412\nVdash; 22A9\nVdashl; 2AE6\nVee; 22C1\nVerbar; 2016\nVert; 2016\nVerticalBar; 2223",
    "VerticalLine; 7C\nVerticalSeparator; 2758\nVerticalTilde; 2240\nVeryThinSpace; 200A\nVfr; 1D519",
    "Vopf; 1D54D\nVscr; 1D4B1\nVvdash; 22AA\nWcirc; 174\nWedge; 22C0\nWfr; 1D51A\nWopf; 1D54E",
    "Wscr; 1D4B2\nXfr; 1D51B\nXi; 39E\nXopf; 1D54F\nXscr; 1D4B3\nYAcy; 42F\nYIcy; 407\nYUcy; 42E",
    "Yacute DD\nYacute; DD\nYcirc; 176\nYcy; 42B\nYfr; 1D51C\nYopf; 1D550\nYscr; 1D4B4\nYuml; 178",
    "ZHcy; 416\nZacute; 179\nZcaron; 17D\nZcy; 417\nZdot; 17B\nZeroWidthSpace; 200B\nZeta; 396",
    "Zfr; 2128\nZopf; 2124\nZscr; 1D4B5\naacute E1\naacute; E1\nabreve; 103\nac; 223E\nacE; 223E,333",
    "acd; 223F\nacirc E2\nacirc; E2\nacute B4\nacute; B4\nacy; 430\naelig E6\naelig; E6\naf; 2061",
    "afr; 1D51E\nagrave E0\nagrave; E0\nalefsym; 2135\naleph; 2135\nalpha; 3B1\namacr; 101\namalg; 2A3F",
    "amp 26\namp; 26\nand; 2227\nandand; 2A55\nandd; 2A5C\nandslope; 2A58\nandv; 2A5A\nang; 2220",
    "ange; 29A4\nangle; 2220\nangmsd; 2221\nangmsdaa; 29A8\nangmsdab; 29A9\nangmsdac; 29AA\nangmsdad; 29AB",
    "angmsdae; 29AC\nangmsdaf; 29AD\nangmsdag; 29AE\nangmsdah; 29AF\nangrt; 221F\nangrtvb; 22BE",
    "angrtvbd; 299D\nangsph; 2222\nangst; C5\nangzarr; 237C\naogon; 105\naopf; 1D552\nap; 2248",
    "apE; 2A70\napacir; 2A6F\nape; 224A\napid; 224B\napos; 27\napprox; 2248\napproxeq; 224A\naring E5",
    "aring; E5\nascr; 1D4B6\nast; 2A\nasymp; 2248\nasympeq; 224D\natilde E3\natilde; E3\nauml E4",
    "auml; E4\nawconint; 2233\nawint; 2A11\nbNot; 2AED\nbackcong; 224C\nbackepsilon; 3F6\nbackprime; 2035",
    "backsim; 223D\nbacksimeq; 22CD\nbarvee; 22BD\nbarwed; 2305\nbarwedge; 2305\nbbrk; 23B5",
    "bbrktbrk; 23B6\nbcong; 224C\nbcy; 431\nbdquo; 201E\nbecaus; 2235\nbecause; 2235\nbemptyv; 29B0",
    "bepsi; 3F6\nbernou; 212C\nbeta; 3B2\nbeth; 2136\nbetween; 226C\nbfr; 1D51F\nbigcap; 22C2",
    "bigcirc; 25EF\nbigcup; 22C3\nbigodot; 2A00\nbigoplus; 2A01\nbigotimes; 2A02\nbigsqcup; 2A06",
    "bigstar; 2605\nbigtriangledown; 25BD\nbigtriangleup; 25B3\nbiguplus; 2A04\nbigvee; 22C1",
    "bigwedge; 22C0\nbkarow; 290D\nblacklozenge; 29EB\nblacksquare; 25AA\nblacktriangle; 25B4",
    "blacktriangledown; 25BE\nblacktriangleleft; 25C2\nblacktriangleright; 25B8\nblank; 2423",
    "blk12; 2592\nblk14; 2591\nblk34; 2593\nblock; 2588\nbne; 3D,20E5\nbnequiv; 2261,20E5\nbnot; 2310",
    "bopf; 1D553\nbot; 22A5\nbottom; 22A5\nbowtie; 22C8\nboxDL; 2557\nboxDR; 2554\nboxDl; 2556",
    "boxDr; 2553\nboxH; 2550\nboxHD; 2566\nboxHU; 2569\nboxHd; 2564\nboxHu; 2567\nboxUL; 255D",
    "boxUR; 255A\nboxUl; 255C\nboxUr; 2559\nboxV; 2551\nboxVH; 256C\nboxVL; 2563\nboxVR; 2560",
    "boxVh; 256B\nboxVl; 2562\nboxVr; 255F\nboxbox; 29C9\nboxdL; 2555\nboxdR; 2552\nboxdl; 2510",
    "boxdr; 250C\nboxh; 2500\nboxhD; 2565\nboxhU; 2568\nboxhd; 252C\nboxhu; 2534\nboxminus; 229F",
    "boxplus; 229E\nboxtimes; 22A0\nboxuL; 255B\nboxuR; 2558\nboxul; 2518\nboxur; 2514\nboxv; 2502",
    "boxvH; 256A\nboxvL; 2561\nboxvR; 255E\nboxvh; 253C\nboxvl; 2524\nboxvr; 251C\nbprime; 2035",
    "breve; 2D8\nbrvbar A6\nbrvbar; A6\nbscr; 1D4B7\nbsemi; 204F\nbsim; 223D\nbsime; 22CD\nbsol; 5C",
    "bsolb; 29C5\nbsolhsub; 27C8\nbull; 2022\nbullet; 2022\nbump; 224E\nbumpE; 2AAE\nbumpe; 224F",
    "bumpeq; 224F\ncacute; 107\ncap; 2229\ncapand; 2A44\ncapbrcup; 2A49\ncapcap; 2A4B\ncapcup; 2A47",
    "capdot; 2A40\ncaps; 2229,FE00\ncaret; 2041\ncaron; 2C7\nccaps; 2A4D\nccaron; 10D\nccedil E7",
    "ccedil; E7\nccirc; 109\nccups; 2A4C\nccupssm; 2A50\ncdot; 10B\ncedil B8\ncedil; B8\ncemptyv; 29B2",
    "cent A2\ncent; A2\ncenterdot; B7\ncfr; 1D520\nchcy; 447\ncheck; 2713\ncheckmark; 2713\nchi; 3C7",
    "cir; 25CB\ncirE; 29C3\ncirc; 2C6\ncirceq; 2257\ncirclearrowleft; 21BA\ncirclearrowright; 21BB",
    "circledR; AE\ncircledS; 24C8\ncircledast; 229B\ncircledcirc; 229A\ncircleddash; 229D\ncire; 2257",
    "cirfnint; 2A10\ncirmid; 2AEF\ncirscir; 29C2\nclubs; 2663\nclubsuit; 2663\ncolon; 3A\ncolone; 2254",
    "coloneq; 2254\ncomma; 2C\ncommat; 40\ncomp; 2201\ncompfn; 2218\ncomplement; 2201\ncomplexes; 2102",
    "cong; 2245\ncongdot; 2A6D\nconint; 222E\ncopf; 1D554\ncoprod; 2210\ncopy A9\ncopy; A9\ncopysr; 2117",
    "crarr; 21B5\ncross; 2717\ncscr; 1D4B8\ncsub; 2ACF\ncsube; 2AD1\ncsup; 2AD0\ncsupe; 2AD2",
    "ctdot; 22EF\ncudarrl; 2938\ncudarrr; 2935\ncuepr; 22DE\ncuesc; 22DF\ncularr; 21B6\ncularrp; 293D",
    "cup; 222A\ncupbrcap; 2A48\ncupcap; 2A46\ncupcup; 2A4A\ncupdot; 228D\ncupor; 2A45\ncups; 222A,FE00",
    "curarr; 21B7\ncurarrm; 293C\ncurlyeqprec; 22DE\ncurlyeqsucc; 22DF\ncurlyvee; 22CE\ncurlywedge; 22CF",
    "curren A4\ncurren; A4\ncurvearrowleft; 21B6\ncurvearrowright; 21B7\ncuvee; 22CE\ncuwed; 22CF",
    "cwconint; 2232\ncwint; 2231\ncylcty; 232D\ndArr; 21D3\ndHar; 2965\ndagger; 2020\ndaleth; 2138",
    "darr; 2193\ndash; 2010\ndashv; 22A3\ndbkarow; 290F\ndblac; 2DD\ndcaron; 10F\ndcy; 434\ndd; 2146",
    "ddagger; 2021\nddarr; 21CA\nddotseq; 2A77\ndeg B0\ndeg; B0\ndelta; 3B4\ndemptyv; 29B1\ndfisht; 297F",
    "dfr; 1D521\ndharl; 21C3\ndharr; 21C2\ndiam; 22C4\ndiamond; 22C4\ndiamondsuit; 2666\ndiams; 2666",
    "die; A8\ndigamma; 3DD\ndisin; 22F2\ndiv; F7\ndivide F7\ndivide; F7\ndivideontimes; 22C7",
    "divonx; 22C7\ndjcy; 452\ndlcorn; 231E\ndlcrop; 230D\ndollar; 24\ndopf; 1D555\ndot; 2D9\ndoteq; 2250",
    "doteqdot; 2251\ndotminus; 2238\ndotplus; 2214\ndotsquare; 22A1\ndoublebarwedge; 2306\ndownarrow; 2193",
    "downdownarrows; 21CA\ndownharpoonleft; 21C3\ndownharpoonright; 21C2\ndrbkarow; 2910\ndrcorn; 231F",
    "drcrop; 230C\ndscr; 1D4B9\ndscy; 455\ndsol; 29F6\ndstrok; 111\ndtdot; 22F1\ndtri; 25BF\ndtrif; 25BE",
    "duarr; 21F5\nduhar; 296F\ndwangle; 29A6\ndzcy; 45F\ndzigrarr; 27FF\neDDot; 2A77\neDot; 2251",
    "eacute E9\neacute; E9\neaster; 2A6E\necaron; 11B\necir; 2256\necirc EA\necirc; EA\necolon; 2255",
    "ecy; 44D\nedot; 117\nee; 2147\nefDot; 2252\nefr; 1D522\neg; 2A9A\negrave E8\negrave; E8\negs; 2A96",
    "egsdot; 2A98\nel; 2A99\nelinters; 23E7\nell; 2113\nels; 2A95\nelsdot; 2A97\nemacr; 113\nempty; 2205",
    "emptyset; 2205\nemptyv; 2205\nemsp13; 2004\nemsp14; 2005\nemsp; 2003\neng; 14B\nensp; 2002",
    "eogon; 119\neopf; 1D556\nepar; 22D5\neparsl; 29E3\neplus; 2A71\nepsi; 3B5\nepsilon; 3B5",
    "epsiv; 3F5\neqcirc; 2256\neqcolon; 2255\neqsim; 2242\neqslantgtr; 2A96\neqslantless; 2A95",
    "equals; 3D\nequest; 225F\nequiv; 2261\nequivDD; 2A78\neqvparsl; 29E5\nerDot; 2253\nerarr; 2971",
    "escr; 212F\nesdot; 2250\nesim; 2242\neta; 3B7\neth F0\neth; F0\neuml EB\neuml; EB\neuro; 20AC",
    "excl; 21\nexist; 2203\nexpectation; 2130\nexponentiale; 2147\nfallingdotseq; 2252\nfcy; 444",
    "female; 2640\nffilig; FB03\nfflig; FB00\nffllig; FB04\nffr; 1D523\nfilig; FB01\nfjlig; 66,6A",
    "flat; 266D\nfllig; FB02\nfltns; 25B1\nfnof; 192\nfopf; 1D557\nforall; 2200\nfork; 22D4\nforkv; 2AD9",
    "fpartint; 2A0D\nfrac12 BD\nfrac12; BD\nfrac13; 2153\nfrac14 BC\nfrac14; BC\nfrac15; 2155",
    "frac16; 2159\nfrac18; 215B\nfrac23; 2154\nfrac25; 2156\nfrac34 BE\nfrac34; BE\nfrac35; 2157",
    "frac38; 215C\nfrac45; 2158\nfrac56; 215A\nfrac58; 215D\nfrac78; 215E\nfrasl; 2044\nfrown; 2322",
    "fscr; 1D4BB\ngE; 2267\ngEl; 2A8C\ngacute; 1F5\ngamma; 3B3\ngammad; 3DD\ngap; 2A86\ngbreve; 11F",
    "gcirc; 11D\ngcy; 433\ngdot; 121\nge; 2265\ngel; 22DB\ngeq; 2265\ngeqq; 2267\ngeqslant; 2A7E",
    "ges; 2A7E\ngescc; 2AA9\ngesdot; 2A80\ngesdoto; 2A82\ngesdotol; 2A84\ngesl; 22DB,FE00\ngesles; 2A94",
    "gfr; 1D524\ngg; 226B\nggg; 22D9\ngimel; 2137\ngjcy; 453\ngl; 2277\nglE; 2A92\ngla; 2AA5\nglj; 2AA4",
    "gnE; 2269\ngnap; 2A8A\ngnapprox; 2A8A\ngne; 2A88\ngneq; 2A88\ngneqq; 2269\ngnsim; 22E7\ngopf; 1D558",
    "grave; 60\ngscr; 210A\ngsim; 2273\ngsime; 2A8E\ngsiml; 2A90\ngt 3E\ngt; 3E\ngtcc; 2AA7\ngtcir; 2A7A",
    "gtdot; 22D7\ngtlPar; 2995\ngtquest; 2A7C\ngtrapprox; 2A86\ngtrarr; 2978\ngtrdot; 22D7\ngtreqless; 22DB",
    "gtreqqless; 2A8C\ngtrless; 2277\ngtrsim; 2273\ngvertneqq; 2269,FE00\ngvnE; 2269,FE00\nhArr; 21D4",
    "hairsp; 200A\nhalf; BD\nhamilt; 210B\nhardcy; 44A\nharr; 2194\nharrcir; 2948\nharrw; 21AD",
    "hbar; 210F\nhcirc; 125\nhearts; 2665\nheartsuit; 2665\nhellip; 2026\nhercon; 22B9\nhfr; 1D525",
    "hksearow; 2925\nhkswarow; 2926\nhoarr; 21FF\nhomtht; 223B\nhookleftarrow; 21A9\nhookrightarrow; 21AA",
    "hopf; 1D559\nhorbar; 2015\nhscr; 1D4BD\nhslash; 210F\nhstrok; 127\nhybull; 2043\nhyphen; 2010",
    "iacute ED\niacute; ED\nic; 2063\nicirc EE\nicirc; EE\nicy; 438\niecy; 435\niexcl A1\niexcl; A1",
    "iff; 21D4\nifr; 1D526\nigrave EC\nigrave; EC\nii; 2148\niiiint; 2A0C\niiint; 222D\niinfin; 29DC",
    "iiota; 2129\nijlig; 133\nimacr; 12B\nimage; 2111\nimagline; 2110\nimagpart; 2111\nimath; 131",
    "imof; 22B7\nimped; 1B5\nin; 2208\nincare; 2105\ninfin; 221E\ninfintie; 29DD\ninodot; 131",
    "int; 222B\nintcal; 22BA\nintegers; 2124\nintercal; 22BA\nintlarhk; 2A17\nintprod; 2A3C",
    "iocy; 451\niogon; 12F\niopf; 1D55A\niota; 3B9\niprod; 2A3C\niquest BF\niquest; BF\niscr; 1D4BE",
    "isin; 2208\nisinE; 22F9\nisindot; 22F5\nisins; 22F4\nisinsv; 22F3\nisinv; 2208\nit; 2062",
    "itilde; 129\niukcy; 456\niuml EF\niuml; EF\njcirc; 135\njcy; 439\njfr; 1D527\njmath; 237",
    "jopf; 1D55B\njscr; 1D4BF\njsercy; 458\njukcy; 454\nkappa; 3BA\nkappav; 3F0\nkcedil; 137",
    "kcy; 43A\nkfr; 1D528\nkgreen; 138\nkhcy; 445\nkjcy; 45C\nkopf; 1D55C\nkscr; 1D4C0\nlAarr; 21DA",
    "lArr; 21D0\nlAtail; 291B\nlBarr; 290E\nlE; 2266\nlEg; 2A8B\nlHar; 2962\nlacute; 13A\nlaemptyv; 29B4",
    "lagran; 2112\nlambda; 3BB\nlang; 27E8\nlangd; 2991\nlangle; 27E8\nlap; 2A85\nlaquo AB\nlaquo; AB",
    "larr; 2190\nlarrb; 21E4\nlarrbfs; 291F\nlarrfs; 291D\nlarrhk; 21A9\nlarrlp; 21AB\nlarrpl; 2939",
    "larrsim; 2973\nlarrtl; 21A2\nlat; 2AAB\nlatail; 2919\nlate; 2AAD\nlates; 2AAD,FE00\nlbarr; 290C",
    "lbbrk; 2772\nlbrace; 7B\nlbrack; 5B\nlbrke; 298B\nlbrksld; 298F\nlbrkslu; 298D\nlcaron; 13E",
    "lcedil; 13C\nlceil; 2308\nlcub; 7B\nlcy; 43B\nldca; 2936\nldquo; 201C\nldquor; 201E\nldrdhar; 2967",
    "ldrushar; 294B\nldsh; 21B2\nle; 2264\nleftarrow; 2190\nleftarrowtail; 21A2\nleftharpoondown; 21BD",
    "leftharpoonup; 21BC\nleftleftarrows; 21C7\nleftrightarrow; 2194\nleftrightarrows; 21C6",
    "leftrightharpoons; 21CB\nleftrightsquigarrow; 21AD\nleftthreetimes; 22CB\nleg; 22DA\nleq; 2264",
    "leqq; 2266\nleqslant; 2A7D\nles; 2A7D\nlescc; 2AA8\nlesdot; 2A7F\nlesdoto; 2A81\nlesdotor; 2A83",
    "lesg; 22DA,FE00\nlesges; 2A93\nlessapprox; 2A85\nlessdot; 22D6\nlesseqgtr; 22DA\nlesseqqgtr; 2A8B",
    "lessgtr; 2276\nlesssim; 2272\nlfisht; 297C\nlfloor; 230A\nlfr; 1D529\nlg; 2276\nlgE; 2A91",
    "lhard; 21BD\nlharu; 21BC\nlharul; 296A\nlhblk; 2584\nljcy; 459\nll; 226A\nllarr; 21C7\nllcorner; 231E",
    "llhard; 296B\nlltri; 25FA\nlmidot; 140\nlmoust; 23B0\nlmoustache; 23B0\nlnE; 2268\nlnap; 2A89",
    "lnapprox; 2A89\nlne; 2A87\nlneq; 2A87\nlneqq; 2268\nlnsim; 22E6\nloang; 27EC\nloarr; 21FD",
    "lobrk; 27E6\nlongleftarrow; 27F5\nlongleftrightarrow; 27F7\nlongmapsto; 27FC\nlongrightarrow; 27F6",
    "looparrowleft; 21AB\nlooparrowright; 21AC\nlopar; 2985\nlopf; 1D55D\nloplus; 2A2D\nlotimes; 2A34",
    "lowast; 2217\nlowbar; 5F\nloz; 25CA\nlozenge; 25CA\nlozf; 29EB\nlpar; 28\nlparlt; 2993\nlrarr; 21C6",
    "lrcorner; 231F\nlrhar; 21CB\nlrhard; 296D\nlrm; 200E\nlrtri; 22BF\nlsaquo; 2039\nlscr; 1D4C1",
    "lsh; 21B0\nlsim; 2272\nlsime; 2A8D\nlsimg; 2A8F\nlsqb; 5B\nlsquo; 2018\nlsquor; 201A\nlstrok; 142",
    "lt 3C\nlt; 3C\nltcc; 2AA6\nltcir; 2A79\nltdot; 22D6\nlthree; 22CB\nltimes; 22C9\nltlarr; 2976",
    "ltquest; 2A7B\nltrPar; 2996\nltri; 25C3\nltrie; 22B4\nltrif; 25C2\nlurdshar; 294A\nluruhar; 2966",
    "lvertneqq; 2268,FE00\nlvnE; 2268,FE00\nmDDot; 223A\nmacr AF\nmacr; AF\nmale; 2642\nmalt; 2720",
    "maltese; 2720\nmap; 21A6\nmapsto; 21A6\nmapstodown; 21A7\nmapstoleft; 21A4\nmapstoup; 21A5",
    "marker; 25AE\nmcomma; 2A29\nmcy; 43C\nmdash; 2014\nmeasuredangle; 2221\nmfr; 1D52A\nmho; 2127",
    "micro B5\nmicro; B5\nmid; 2223\nmidast; 2A\nmidcir; 2AF0\nmiddot B7\nmiddot; B7\nminus; 2212",
    "minusb; 229F\nminusd; 2238\nminusdu; 2A2A\nmlcp; 2ADB\nmldr; 2026\nmnplus; 2213\nmodels; 22A7",
    "mopf; 1D55E\nmp; 2213\nmscr; 1D4C2\nmstpos; 223E\nmu; 3BC\nmultimap; 22B8\nmumap; 22B8\nnGg; 22D9,338",
    "nGt; 226B,20D2\nnGtv; 226B,338\nnLeftarrow; 21CD\nnLeftrightarrow; 21CE\nnLl; 22D8,338",
    "nLt; 226A,20D2\nnLtv; 226A,338\nnRightarrow; 21CF\nnVDash; 22AF\nnVdash; 22AE\nnabla; 2207",
    "nacute; 144\nnang; 2220,20D2\nnap; 2249\nnapE; 2A70,338\nnapid; 224B,338\nnapos; 149\nnapprox; 2249",
    "natur; 266E\nnatural; 266E\nnaturals; 2115\nnbsp A0\nnbsp; A0\nnbump; 224E,338\nnbumpe; 224F,338",
    "ncap; 2A43\nncaron; 148\nncedil; 146\nncong; 2247\nncongdot; 2A6D,338\nncup; 2A42\nncy; 43D",
    "ndash; 2013\nne; 2260\nneArr; 21D7\nnearhk; 2924\nnearr; 2197\nnearrow; 2197\nnedot; 2250,338",
    "nequiv; 2262\nnesear; 2928\nnesim; 2242,338\nnexist; 2204\nnexists; 2204\nnfr; 1D52B\nngE; 2267,338",
    "nge; 2271\nngeq; 2271\nngeqq; 2267,338\nngeqslant; 2A7E,338\nnges; 2A7E,338\nngsim; 2275",
    "ngt; 226F\nngtr; 226F\nnhArr; 21CE\nnharr; 21AE\nnhpar; 2AF2\nni; 220B\nnis; 22FC\nnisd; 22FA",
    "niv; 220B\nnjcy; 45A\nnlArr; 21CD\nnlE; 2266,338\nnlarr; 219A\nnldr; 2025\nnle; 2270\nnleftarrow; 219A",
    "nleftrightarrow; 21AE\nnleq; 2270\nnleqq; 2266,338\nnleqslant; 2A7D,338\nnles; 2A7D,338",
    "nless; 226E\nnlsim; 2274\nnlt; 226E\nnltri; 22EA\nnltrie; 22EC\nnmid; 2224\nnopf; 1D55F",
    "not AC\nnot; AC\nnotin; 2209\nnotinE; 22F9,338\nnotindot; 22F5,338\nnotinva; 2209\nnotinvb; 22F7",
    "notinvc; 22F6\nnotni; 220C\nnotniva; 220C\nnotnivb; 22FE\nnotnivc; 22FD\nnpar; 2226\nnparallel; 2226",
    "nparsl; 2AFD,20E5\nnpart; 2202,338\nnpolint; 2A14\nnpr; 2280\nnprcue; 22E0\nnpre; 2AAF,338",
    "nprec; 2280\nnpreceq; 2AAF,338\nnrArr; 21CF\nnrarr; 219B\nnrarrc; 2933,338\nnrarrw; 219D,338",
    "nrightarrow; 219B\nnrtri; 22EB\nnrtrie; 22ED\nnsc; 2281\nnsccue; 22E1\nnsce; 2AB0,338\nnscr; 1D4C3",
    "nshortmid; 2224\nnshortparallel; 2226\nnsim; 2241\nnsime; 2244\nnsimeq; 2244\nnsmid; 2224",
    "nspar; 2226\nnsqsube; 22E2\nnsqsupe; 22E3\nnsub; 2284\nnsubE; 2AC5,338\nnsube; 2288\nnsubset; 2282,20D2",
    "nsubseteq; 2288\nnsubseteqq; 2AC5,338\nnsucc; 2281\nnsucceq; 2AB0,338\nnsup; 2285\nnsupE; 2AC6,338",
    "nsupe; 2289\nnsupset; 2283,20D2\nnsupseteq; 2289\nnsupseteqq; 2AC6,338\nntgl; 2279\nntilde F1",
    "ntilde; F1\nntlg; 2278\nntriangleleft; 22EA\nntrianglelefteq; 22EC\nntriangleright; 22EB",
    "ntrianglerighteq; 22ED\nnu; 3BD\nnum; 23\nnumero; 2116\nnumsp; 2007\nnvDash; 22AD\nnvHarr; 2904",
    "nvap; 224D,20D2\nnvdash; 22AC\nnvge; 2265,20D2\nnvgt; 3E,20D2\nnvinfin; 29DE\nnvlArr; 2902",
    "nvle; 2264,20D2\nnvlt; 3C,20D2\nnvltrie; 22B4,20D2\nnvrArr; 2903\nnvrtrie; 22B5,20D2\nnvsim; 223C,20D2",
    "nwArr; 21D6\nnwarhk; 2923\nnwarr; 2196\nnwarrow; 2196\nnwnear; 2927\noS; 24C8\noacute F3",
    "oacute; F3\noast; 229B\nocir; 229A\nocirc F4\nocirc; F4\nocy; 43E\nodash; 229D\nodblac; 151",
    "odiv; 2A38\nodot; 2299\nodsold; 29BC\noelig; 153\nofcir; 29BF\nofr; 1D52C\nogon; 2DB\nograve F2",
    "ograve; F2\nogt; 29C1\nohbar; 29B5\nohm; 3A9\noint; 222E\nolarr; 21BA\nolcir; 29BE\nolcross; 29BB",
    "oline; 203E\nolt; 29C0\nomacr; 14D\nomega; 3C9\nomicron; 3BF\nomid; 29B6\nominus; 2296\noopf; 1D560",
    "opar; 29B7\noperp; 29B9\noplus; 2295\nor; 2228\norarr; 21BB\nord; 2A5D\norder; 2134\norderof; 2134",
    "ordf AA\nordf; AA\nordm BA\nordm; BA\norigof; 22B6\noror; 2A56\norslope; 2A57\norv; 2A5B",
    "oscr; 2134\noslash F8\noslash; F8\nosol; 2298\notilde F5\notilde; F5\notimes; 2297\notimesas; 2A36",
    "ouml F6\nouml; F6\novbar; 233D\npar; 2225\npara B6\npara; B6\nparallel; 2225\nparsim; 2AF3",
    "parsl; 2AFD\npart; 2202\npcy; 43F\npercnt; 25\nperiod; 2E\npermil; 2030\nperp; 22A5\npertenk; 2031",
    "pfr; 1D52D\nphi; 3C6\nphiv; 3D5\nphmmat; 2133\nphone; 260E\npi; 3C0\npitchfork; 22D4\npiv; 3D6",
    "planck; 210F\nplanckh; 210E\nplankv; 210F\nplus; 2B\nplusacir; 2A23\nplusb; 229E\npluscir; 2A22",
    "plusdo; 2214\nplusdu; 2A25\npluse; 2A72\nplusmn B1\nplusmn; B1\nplussim; 2A26\nplustwo; 2A27",
    "pm; B1\npointint; 2A15\npopf; 1D561\npound A3\npound; A3\npr; 227A\nprE; 2AB3\nprap; 2AB7",
    "prcue; 227C\npre; 2AAF\nprec; 227A\nprecapprox; 2AB7\npreccurlyeq; 227C\npreceq; 2AAF\nprecnapprox; 2AB9",
    "precneqq; 2AB5\nprecnsim; 22E8\nprecsim; 227E\nprime; 2032\nprimes; 2119\nprnE; 2AB5\nprnap; 2AB9",
    "prnsim; 22E8\nprod; 220F\nprofalar; 232E\nprofline; 2312\nprofsurf; 2313\nprop; 221D\npropto; 221D",
    "prsim; 227E\nprurel; 22B0\npscr; 1D4C5\npsi; 3C8\npuncsp; 2008\nqfr; 1D52E\nqint; 2A0C\nqopf; 1D562",
    "qprime; 2057\nqscr; 1D4C6\nquaternions; 210D\nquatint; 2A16\nquest; 3F\nquesteq; 225F\nquot 22",
    "quot; 22\nrAarr; 21DB\nrArr; 21D2\nrAtail; 291C\nrBarr; 290F\nrHar; 2964\nrace; 223D,331",
    "racute; 155\nradic; 221A\nraemptyv; 29B3\nrang; 27E9\nrangd; 2992\nrange; 29A5\nrangle; 27E9",
    "raquo BB\nraquo; BB\nrarr; 2192\nrarrap; 2975\nrarrb; 21E5\nrarrbfs; 2920\nrarrc; 2933\nrarrfs; 291E",
    "rarrhk; 21AA\nrarrlp; 21AC\nrarrpl; 2945\nrarrsim; 2974\nrarrtl; 21A3\nrarrw; 219D\nratail; 291A",
    "ratio; 2236\nrationals; 211A\nrbarr; 290D\nrbbrk; 2773\nrbrace; 7D\nrbrack; 5D\nrbrke; 298C",
    "rbrksld; 298E\nrbrkslu; 2990\nrcaron; 159\nrcedil; 157\nrceil; 2309\nrcub; 7D\nrcy; 440",
    "rdca; 2937\nrdldhar; 2969\nrdquo; 201D\nrdquor; 201D\nrdsh; 21B3\nreal; 211C\nrealine; 211B",
    "realpart; 211C\nreals; 211D\nrect; 25AD\nreg AE\nreg; AE\nrfisht; 297D\nrfloor; 230B\nrfr; 1D52F",
    "rhard; 21C1\nrharu; 21C0\nrharul; 296C\nrho; 3C1\nrhov; 3F1\nrightarrow; 2192\nrightarrowtail; 21A3",
    "rightharpoondown; 21C1\nrightharpoonup; 21C0\nrightleftarrows; 21C4\nrightleftharpoons; 21CC",
    "rightrightarrows; 21C9\nrightsquigarrow; 219D\nrightthreetimes; 22CC\nring; 2DA\nrisingdotseq; 2253",
    "rlarr; 21C4\nrlhar; 21CC\nrlm; 200F\nrmoust; 23B1\nrmoustache; 23B1\nrnmid; 2AEE\nroang; 27ED",
    "roarr; 21FE\nrobrk; 27E7\nropar; 2986\nropf; 1D563\nroplus; 2A2E\nrotimes; 2A35\nrpar; 29",
    "rpargt; 2994\nrppolint; 2A12\nrrarr; 21C9\nrsaquo; 203A\nrscr; 1D4C7\nrsh; 21B1\nrsqb; 5D",
    "rsquo; 2019\nrsquor; 2019\nrthree; 22CC\nrtimes; 22CA\nrtri; 25B9\nrtrie; 22B5\nrtrif; 25B8",
    "rtriltri; 29CE\nruluhar; 2968\nrx; 211E\nsacute; 15B\nsbquo; 201A\nsc; 227B\nscE; 2AB4\nscap; 2AB8",
    "scaron; 161\nsccue; 227D\nsce; 2AB0\nscedil; 15F\nscirc; 15D\nscnE; 2AB6\nscnap; 2ABA\nscnsim; 22E9",
    "scpolint; 2A13\nscsim; 227F\nscy; 441\nsdot; 22C5\nsdotb; 22A1\nsdote; 2A66\nseArr; 21D8",
    "searhk; 2925\nsearr; 2198\nsearrow; 2198\nsect A7\nsect; A7\nsemi; 3B\nseswar; 2929\nsetminus; 2216",
    "setmn; 2216\nsext; 2736\nsfr; 1D530\nsfrown; 2322\nsharp; 266F\nshchcy; 449\nshcy; 448\nshortmid; 2223",
    "shortparallel; 2225\nshy AD\nshy; AD\nsigma; 3C3\nsigmaf; 3C2\nsigmav; 3C2\nsim; 223C\nsimdot; 2A6A",
    "sime; 2243\nsimeq; 2243\nsimg; 2A9E\nsimgE; 2AA0\nsiml; 2A9D\nsimlE; 2A9F\nsimne; 2246\nsimplus; 2A24",
    "simrarr; 2972\nslarr; 2190\nsmallsetminus; 2216\nsmashp; 2A33\nsmeparsl; 29E4\nsmid; 2223",
    "smile; 2323\nsmt; 2AAA\nsmte; 2AAC\nsmtes; 2AAC,FE00\nsoftcy; 44C\nsol; 2F\nsolb; 29C4\nsolbar; 233F",
    "sopf; 1D564\nspades; 2660\nspadesuit; 2660\nspar; 2225\nsqcap; 2293\nsqcaps; 2293,FE00",
    "sqcup; 2294\nsqcups; 2294,FE00\nsqsub; 228F\nsqsube; 2291\nsqsubset; 228F\nsqsubseteq; 2291",
    "sqsup; 2290\nsqsupe; 2292\nsqsupset; 2290\nsqsupseteq; 2292\nsqu; 25A1\nsquare; 25A1\nsquarf; 25AA",
    "squf; 25AA\nsrarr; 2192\nsscr; 1D4C8\nssetmn; 2216\nssmile; 2323\nsstarf; 22C6\nstar; 2606",
    "starf; 2605\nstraightepsilon; 3F5\nstraightphi; 3D5\nstrns; AF\nsub; 2282\nsubE; 2AC5\nsubdot; 2ABD",
    "sube; 2286\nsubedot; 2AC3\nsubmult; 2AC1\nsubnE; 2ACB\nsubne; 228A\nsubplus; 2ABF\nsubrarr; 2979",
    "subset; 2282\nsubseteq; 2286\nsubseteqq; 2AC5\nsubsetneq; 228A\nsubsetneqq; 2ACB\nsubsim; 2AC7",
    "subsub; 2AD5\nsubsup; 2AD3\nsucc; 227B\nsuccapprox; 2AB8\nsucccurlyeq; 227D\nsucceq; 2AB0",
    "succnapprox; 2ABA\nsuccneqq; 2AB6\nsuccnsim; 22E9\nsuccsim; 227F\nsum; 2211\nsung; 266A",
    "sup1 B9\nsup1; B9\nsup2 B2\nsup2; B2\nsup3 B3\nsup3; B3\nsup; 2283\nsupE; 2AC6\nsupdot; 2ABE",
    "supdsub; 2AD8\nsupe; 2287\nsupedot; 2AC4\nsuphsol; 27C9\nsuphsub; 2AD7\nsuplarr; 297B\nsupmult; 2AC2",
    "supnE; 2ACC\nsupne; 228B\nsupplus; 2AC0\nsupset; 2283\nsupseteq; 2287\nsupseteqq; 2AC6",
    "supsetneq; 228B\nsupsetneqq; 2ACC\nsupsim; 2AC8\nsupsub; 2AD4\nsupsup; 2AD6\nswArr; 21D9",
    "swarhk; 2926\nswarr; 2199\nswarrow; 2199\nswnwar; 292A\nszlig DF\nszlig; DF\ntarget; 2316",
    "tau; 3C4\ntbrk; 23B4\ntcaron; 165\ntcedil; 163\ntcy; 442\ntdot; 20DB\ntelrec; 2315\ntfr; 1D531",
    "there4; 2234\ntherefore; 2234\ntheta; 3B8\nthetasym; 3D1\nthetav; 3D1\nthickapprox; 2248",
    "thicksim; 223C\nthinsp; 2009\nthkap; 2248\nthksim; 223C\nthorn FE\nthorn; FE\ntilde; 2DC",
    "times D7\ntimes; D7\ntimesb; 22A0\ntimesbar; 2A31\ntimesd; 2A30\ntint; 222D\ntoea; 2928",
    "top; 22A4\ntopbot; 2336\ntopcir; 2AF1\ntopf; 1D565\ntopfork; 2ADA\ntosa; 2929\ntprime; 2034",
    "trade; 2122\ntriangle; 25B5\ntriangledown; 25BF\ntriangleleft; 25C3\ntrianglelefteq; 22B4",
    "triangleq; 225C\ntriangleright; 25B9\ntrianglerighteq; 22B5\ntridot; 25EC\ntrie; 225C",
    "triminus; 2A3A\ntriplus; 2A39\ntrisb; 29CD\ntritime; 2A3B\ntrpezium; 23E2\ntscr; 1D4C9",
    "tscy; 446\ntshcy; 45B\ntstrok; 167\ntwixt; 226C\ntwoheadleftarrow; 219E\ntwoheadrightarrow; 21A0",
    "uArr; 21D1\nuHar; 2963\nuacute FA\nuacute; FA\nuarr; 2191\nubrcy; 45E\nubreve; 16D\nucirc FB",
    "ucirc; FB\nucy; 443\nudarr; 21C5\nudblac; 171\nudhar; 296E\nufisht; 297E\nufr; 1D532\nugrave F9",
    "ugrave; F9\nuharl; 21BF\nuharr; 21BE\nuhblk; 2580\nulcorn; 231C\nulcorner; 231C\nulcrop; 230F",
    "ultri; 25F8\numacr; 16B\numl A8\numl; A8\nuogon; 173\nuopf; 1D566\nuparrow; 2191\nupdownarrow; 2195",
    "upharpoonleft; 21BF\nupharpoonright; 21BE\nuplus; 228E\nupsi; 3C5\nupsih; 3D2\nupsilon; 3C5",
    "upuparrows; 21C8\nurcorn; 231D\nurcorner; 231D\nurcrop; 230E\nuring; 16F\nurtri; 25F9\nuscr; 1D4CA",
    "utdot; 22F0\nutilde; 169\nutri; 25B5\nutrif; 25B4\nuuarr; 21C8\nuuml FC\nuuml; FC\nuwangle; 29A7",
    "vArr; 21D5\nvBar; 2AE8\nvBarv; 2AE9\nvDash; 22A8\nvangrt; 299C\nvarepsilon; 3F5\nvarkappa; 3F0",
    "varnothing; 2205\nvarphi; 3D5\nvarpi; 3D6\nvarpropto; 221D\nvarr; 2195\nvarrho; 3F1\nvarsigma; 3C2",
    "varsubsetneq; 228A,FE00\nvarsubsetneqq; 2ACB,FE00\nvarsupsetneq; 228B,FE00\nvarsupsetneqq; 2ACC,FE00",
    "vartheta; 3D1\nvartriangleleft; 22B2\nvartriangleright; 22B3\nvcy; 432\nvdash; 22A2\nvee; 2228",
    "veebar; 22BB\nveeeq; 225A\nvellip; 22EE\nverbar; 7C\nvert; 7C\nvfr; 1D533\nvltri; 22B2\nvnsub; 2282,20D2",
    "vnsup; 2283,20D2\nvopf; 1D567\nvprop; 221D\nvrtri; 22B3\nvscr; 1D4CB\nvsubnE; 2ACB,FE00",
    "vsubne; 228A,FE00\nvsupnE; 2ACC,FE00\nvsupne; 228B,FE00\nvzigzag; 299A\nwcirc; 175\nwedbar; 2A5F",
    "wedge; 2227\nwedgeq; 2259\nweierp; 2118\nwfr; 1D534\nwopf; 1D568\nwp; 2118\nwr; 2240\nwreath; 2240",
    "wscr; 1D4CC\nxcap; 22C2\nxcirc; 25EF\nxcup; 22C3\nxdtri; 25BD\nxfr; 1D535\nxhArr; 27FA\nxharr; 27F7",
    "xi; 3BE\nxlArr; 27F8\nxlarr; 27F5\nxmap; 27FC\nxnis; 22FB\nxodot; 2A00\nxopf; 1D569\nxoplus; 2A01",
    "xotime; 2A02\nxrArr; 27F9\nxrarr; 27F6\nxscr; 1D4CD\nxsqcup; 2A06\nxuplus; 2A04\nxutri; 25B3",
    "xvee; 22C1\nxwedge; 22C0\nyacute FD\nyacute; FD\nyacy; 44F\nycirc; 177\nycy; 44B\nyen A5",
    "yen; A5\nyfr; 1D536\nyicy; 457\nyopf; 1D56A\nyscr; 1D4CE\nyucy; 44E\nyuml FF\nyuml; FF\nzacute; 17A",
    "zcaron; 17E\nzcy; 437\nzdot; 17C\nzeetrf; 2128\nzeta; 3B6\nzfr; 1D537\nzhcy; 436\nzigrarr; 21DD",
    "zopf; 1D56B\nzscr; 1D4CF\nzwj; 200D\nzwnj; 200C"]

def parseHex (s : String) : Nat :=
  s.toList.foldl (fun n c =>
    let d := if c.isDigit then c.toNat - '0'.toNat
      else if 'A' ≤ c && c ≤ 'F' then c.toNat - 'A'.toNat + 10
      else if 'a' ≤ c && c ≤ 'f' then c.toNat - 'a'.toNat + 10
      else 0
    16 * n + d) 0

def entityValue (codes : String) : String :=
  String.ofList ((codes.splitOn ",").map fun h => Char.ofNat (parseHex h))

def entities : Std.HashMap String String :=
  (entityLines.flatMap (·.splitOn "\n")).foldl (fun m line =>
    match line.splitOn " " with
    | [name, codes] => m.insert name (entityValue codes)
    | _ => m) {}

def longestEntityName : Nat := 32

end TreeSelect.Markup
