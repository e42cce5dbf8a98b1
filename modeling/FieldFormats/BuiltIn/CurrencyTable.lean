/-! # The built-in currency table -/
namespace FieldFormats.BuiltIn

def currencyFileName : String := "iso4217-currencies.txt"

/-- Comments, then a row for each currency: code, numeric code, name, locations. -/
def currencyLines : List String :=
  [ "# ISO 4217 currency codes.",
    "#",
    "# Columns (tab separated): alphabetic code, numeric code, currency name, locations.",
    "AED\t784\tUnited Arab Emirates dirham\tUnited Arab Emirates",
    "AFN\t971\tAfghan afghani\tAfghanistan",
    "ALL\t008\tAlbanian lek\tAlbania",
    "AMD\t051\tArmenian dram\tArmenia",
    "ANG\t532\tNetherlands Antillean guilder\tCuraçao, Sint Maarten",
    "AOA\t973\tAngolan kwanza\tAngola",
    "ARS\t032\tArgentine peso\tArgentina",
    "AUD\t036\tAustralian dollar\tAustralia, Christmas Island, Cocos (Keeling) Islands, Heard Island and McDonald Islands, Kiribati, Nauru, Norfolk Island, Tuvalu",
    "AWG\t533\tAruban florin\tAruba",
    "AZN\t944\tAzerbaijani manat\tAzerbaijan",
    "BAM\t977\tBosnia and Herzegovina convertible mark\tBosnia and Herzegovina",
    "BBD\t052\tBarbados dollar\tBarbados",
    "BDT\t050\tBangladeshi taka\tBangladesh",
    "BGN\t975\tBulgarian lev\tBulgaria",
    "BHD\t048\tBahraini dinar\tBahrain",
    "BIF\t108\tBurundian franc\tBurundi",
    "BMD\t060\tBermudian dollar\tBermuda",
    "BND\t096\tBrunei dollar\tBrunei",
    "BOB\t068\tBoliviano\tBolivia",
    "BOV\t984\tBolivian Mvdol (funds code)\tBolivia",
    "BRL\t986\tBrazilian real\tBrazil",
    "BSD\t044\tBahamian dollar\tBahamas",
    "BTN\t064\tBhutanese ngultrum\tBhutan",
    "BWP\t072\tBotswana pula\tBotswana",
    "BYN\t933\tBelarusian ruble\tBelarus",
    "BZD\t084\tBelize dollar\tBelize",
    "CAD\t124\tCanadian dollar\tCanada",
    "CDF\t976\tCongolese franc\tDemocratic Republic of the Congo",
    "CHE\t947\tWIR Euro (complementary currency)\tSwitzerland",
    "CHF\t756\tSwiss franc\tSwitzerland, Liechtenstein",
    "CHW\t948\tWIR Franc (complementary currency)\tSwitzerland",
    "CLF\t990\tUnidad de Fomento (funds code)\tChile",
    "CLP\t152\tChilean peso\tChile",
    "CNY\t156\tRenminbi (Chinese) yuan\tChina",
    "COP\t170\tColombian peso\tColombia",
    "COU\t970\tUnidad de Valor Real (UVR) (funds code)\tColombia",
    "CRC\t188\tCosta Rican colon\tCosta Rica",
    "CUP\t192\tCuban peso\tCuba",
    "CVE\t132\tCape Verdean escudo\tCabo Verde",
    "CZK\t203\tCzech koruna\tCzechia",
    "DJF\t262\tDjiboutian franc\tDjibouti",
    "DKK\t208\tDanish krone\tDenmark, Faroe Islands, Greenland",
    "DOP\t214\tDominican peso\tDominican Republic",
    "DZD\t012\tAlgerian dinar\tAlgeria",
    "EGP\t818\tEgyptian pound\tEgypt",
    "ERN\t232\tEritrean nakfa\tEritrea",
    "ETB\t230\tEthiopian birr\tEthiopia",
    "EUR\t978\tEuro\tAndorra, Austria, Belgium, Croatia, Cyprus, Estonia, Finland, France, Germany, Greece, Ireland, Italy, Kosovo, Latvia, Lithuania, Luxembourg, Malta, Monaco, Montenegro, Netherlands, Portugal, San Marino, Slovakia, Slovenia, Spain, Vatican City",
    "FJD\t242\tFiji dollar\tFiji",
    "FKP\t238\tFalkland Islands pound\tFalkland Islands",
    "GBP\t826\tPound sterling\tUnited Kingdom, Isle of Man, Jersey, Guernsey",
    "GEL\t981\tGeorgian lari\tGeorgia",
    "GHS\t936\tGhanaian cedi\tGhana",
    "GIP\t292\tGibraltar pound\tGibraltar",
    "GMD\t270\tGambian dalasi\tGambia",
    "GNF\t324\tGuinean franc\tGuinea",
    "GTQ\t320\tGuatemalan quetzal\tGuatemala",
    "GYD\t328\tGuyanese dollar\tGuyana",
    "HKD\t344\tHong Kong dollar\tHong Kong",
    "HNL\t340\tHonduran lempira\tHonduras",
    "HTG\t332\tHaitian gourde\tHaiti",
    "HUF\t348\tHungarian forint\tHungary",
    "IDR\t360\tIndonesian rupiah\tIndonesia",
    "ILS\t376\tIsraeli new shekel\tIsrael, State of Palestine",
    "INR\t356\tIndian rupee\tIndia, Bhutan",
    "IQD\t368\tIraqi dinar\tIraq",
    "IRR\t364\tIranian rial\tIran",
    "ISK\t352\tIcelandic króna\tIceland",
    "JMD\t388\tJamaican dollar\tJamaica",
    "JOD\t400\tJordanian dinar\tJordan",
    "JPY\t392\tJapanese yen\tJapan",
    "KES\t404\tKenyan shilling\tKenya",
    "KGS\t417\tKyrgyzstani som\tKyrgyzstan",
    "KHR\t116\tCambodian riel\tCambodia",
    "KMF\t174\tComoro franc\tComoros",
    "KPW\t408\tNorth Korean won\tNorth Korea",
    "KRW\t410\tSouth Korean won\tSouth Korea",
    "KWD\t414\tKuwaiti dinar\tKuwait",
    "KYD\t136\tCayman Islands dollar\tCayman Islands",
    "KZT\t398\tKazakhstani tenge\tKazakhstan",
    "LAK\t418\tLao kip\tLaos",
    "LBP\t422\tLebanese pound\tLebanon",
    "LKR\t144\tSri Lankan rupee\tSri Lanka",
    "LRD\t430\tLiberian dollar\tLiberia",
    "LSL\t426\tLesotho loti\tLesotho",
    "LYD\t434\tLibyan dinar\tLibya",
    "MAD\t504\tMoroccan dirham\tMorocco, Western Sahara",
    "MDL\t498\tMoldovan leu\tMoldova",
    "MGA\t969\tMalagasy ariary\tMadagascar",
    "MKD\t807\tMacedonian denar\tNorth Macedonia",
    "MMK\t104\tMyanmar kyat\tMyanmar",
    "MNT\t496\tMongolian tögrög\tMongolia",
    "MOP\t446\tMacanese pataca\tMacau",
    "MRU\t929\tMauritanian ouguiya\tMauritania",
    "MUR\t480\tMauritian rupee\tMauritius",
    "MVR\t462\tMaldivian rufiyaa\tMaldives",
    "MWK\t454\tMalawian kwacha\tMalawi",
    "MXN\t484\tMexican peso\tMexico",
    "MXV\t979\tMexican Unidad de Inversion (UDI) (funds code)\tMexico",
    "MYR\t458\tMalaysian ringgit\tMalaysia",
    "MZN\t943\tMozambican metical\tMozambique",
    "NAD\t516\tNamibian dollar\tNamibia",
    "NGN\t566\tNigerian naira\tNigeria",
    "NIO\t558\tNicaraguan córdoba\tNicaragua",
    "NOK\t578\tNorwegian krone\tNorway, Svalbard and Jan Mayen, Bouvet Island",
    "NPR\t524\tNepalese rupee\tNepal",
    "NZD\t554\tNew Zealand dollar\tNew Zealand, Cook Islands, Niue, Pitcairn Islands, Tokelau",
    "OMR\t512\tOmani rial\tOman",
    "PAB\t590\tPanamanian balboa\tPanama",
    "PEN\t604\tPeruvian sol\tPeru",
    "PGK\t598\tPapua New Guinean kina\tPapua New Guinea",
    "PHP\t608\tPhilippine peso\tPhilippines",
    "PKR\t586\tPakistani rupee\tPakistan",
    "PLN\t985\tPolish złoty\tPoland",
    "PYG\t600\tParaguayan guaraní\tParaguay",
    "QAR\t634\tQatari riyal\tQatar",
    "RON\t946\tRomanian leu\tRomania",
    "RSD\t941\tSerbian dinar\tSerbia",
    "RUB\t643\tRussian ruble\tRussia",
    "RWF\t646\tRwandan franc\tRwanda",
    "SAR\t682\tSaudi riyal\tSaudi Arabia",
    "SBD\t090\tSolomon Islands dollar\tSolomon Islands",
    "SCR\t690\tSeychelles rupee\tSeychelles",
    "SDG\t938\tSudanese pound\tSudan",
    "SEK\t752\tSwedish krona\tSweden",
    "SGD\t702\tSingapore dollar\tSingapore",
    "SHP\t654\tSaint Helena pound\tSaint Helena, Ascension and Tristan da Cunha",
    "SLE\t925\tSierra Leonean leone\tSierra Leone",
    "SOS\t706\tSomali shilling\tSomalia",
    "SRD\t968\tSurinamese dollar\tSuriname",
    "SSP\t728\tSouth Sudanese pound\tSouth Sudan",
    "STN\t930\tSão Tomé and Príncipe dobra\tSão Tomé and Príncipe",
    "SVC\t222\tSalvadoran colón\tEl Salvador",
    "SYP\t760\tSyrian pound\tSyria",
    "SZL\t748\tSwazi lilangeni\tEswatini",
    "THB\t764\tThai baht\tThailand",
    "TJS\t972\tTajikistani somoni\tTajikistan",
    "TMT\t934\tTurkmenistan manat\tTurkmenistan",
    "TND\t788\tTunisian dinar\tTunisia",
    "TOP\t776\tTongan paʻanga\tTonga",
    "TRY\t949\tTurkish lira\tTurkey",
    "TTD\t780\tTrinidad and Tobago dollar\tTrinidad and Tobago",
    "TWD\t901\tNew Taiwan dollar\tTaiwan",
    "TZS\t834\tTanzanian shilling\tTanzania",
    "UAH\t980\tUkrainian hryvnia\tUkraine",
    "UGX\t800\tUgandan shilling\tUganda",
    "USD\t840\tUnited States dollar\tUnited States, American Samoa, British Indian Ocean Territory, Ecuador, El Salvador, Guam, Haiti, Marshall Islands, Micronesia, Northern Mariana Islands, Palau, Panama, Puerto Rico, Timor-Leste, Turks and Caicos Islands, U.S. Virgin Islands, Zimbabwe",
    "USN\t997\tUnited States dollar (next day) (funds code)\tUnited States",
    "UYI\t940\tUruguay Peso en Unidades Indexadas (URUIURUI) (funds code)\tUruguay",
    "UYU\t858\tUruguayan peso\tUruguay",
    "UYW\t927\tUnidad previsional\tUruguay",
    "UZS\t860\tUzbekistan sum\tUzbekistan",
    "VED\t926\tVenezuelan digital bolívar\tVenezuela",
    "VES\t928\tVenezuelan sovereign bolívar\tVenezuela",
    "VND\t704\tVietnamese đồng\tVietnam",
    "VUV\t548\tVanuatu vatu\tVanuatu",
    "WST\t882\tSamoan tala\tSamoa",
    "XAF\t950\tCFA franc BEAC\tCameroon, Central African Republic, Republic of the Congo, Chad, Equatorial Guinea, Gabon",
    "XAG\t961\tSilver (one troy ounce)\t-",
    "XAU\t959\tGold (one troy ounce)\t-",
    "XBA\t955\tEuropean Composite Unit (EURCO) (bond market unit)\t-",
    "XBB\t956\tEuropean Monetary Unit (E.M.U.-6) (bond market unit)\t-",
    "XBC\t957\tEuropean Unit of Account 9 (E.U.A.-9) (bond market unit)\t-",
    "XBD\t958\tEuropean Unit of Account 17 (E.U.A.-17) (bond market unit)\t-",
    "XCD\t951\tEast Caribbean dollar\tAnguilla, Antigua and Barbuda, Dominica, Grenada, Montserrat, Saint Kitts and Nevis, Saint Lucia, Saint Vincent and the Grenadines",
    "XDR\t960\tSpecial drawing rights\tInternational Monetary Fund",
    "XOF\t952\tCFA franc BCEAO\tBenin, Burkina Faso, Côte d'Ivoire, Guinea-Bissau, Mali, Niger, Senegal, Togo",
    "XPD\t964\tPalladium (one troy ounce)\t-",
    "XPF\t953\tCFP franc (franc Pacifique)\tFrench Polynesia, New Caledonia, Wallis and Futuna",
    "XPT\t962\tPlatinum (one troy ounce)\t-",
    "XSU\t994\tSUCRE\tUnified System for Regional Compensation (SUCRE)",
    "XTS\t963\tCode reserved for testing\t-",
    "XUA\t965\tADB Unit of Account\tAfrican Development Bank",
    "XXX\t999\tNo currency\t-",
    "YER\t886\tYemeni rial\tYemen",
    "ZAR\t710\tSouth African rand\tSouth Africa, Eswatini, Lesotho, Namibia",
    "ZMW\t967\tZambian kwacha\tZambia",
    "ZWL\t932\tZimbabwean dollar\tZimbabwe" ]

/-- Every line ends in LF. -/
def currencyText : String :=
  String.join (currencyLines.map (· ++ "\n"))

end FieldFormats.BuiltIn
