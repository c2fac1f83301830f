/-!
# Names of pictures

The pictures that can be asked for by name.  The table gives each picture by the code points of its
characters, joined by plus signs behind a capital U, and after it its names; every line starts with a
picture.
-/

namespace Daihon.Report

def pictureTable : String := "
  U+1F947 1st_place_medal U+1F948 2nd_place_medal U+1F949 3rd_place_medal
  U+1F18E ab_button_(blood_type) ab U+1F3E7 atm_sign atm U+1F170 a_button_(blood_type) a
  U+1F1E6+1F1EB afghanistan flag_for_afghanistan U+1F1E6+1F1F1 albania flag_for_albania
  U+1F1E9+1F1FF algeria flag_for_algeria U+1F1E6+1F1F8 american_samoa flag_for_american_samoa
  U+1F1E6+1F1E9 andorra flag_for_andorra U+1F1E6+1F1F4 angola flag_for_angola
  U+1F1E6+1F1EE anguilla flag_for_anguilla U+1F1E6+1F1F6 antarctica flag_for_antarctica
  U+1F1E6+1F1EC antigua_&_barbuda flag_for_antigua_&_barbuda U+2652 aquarius
  U+1F1E6+1F1F7 argentina flag_for_argentina U+2648 aries U+1F1E6+1F1F2 armenia flag_for_armenia
  U+1F1E6+1F1FC aruba flag_for_aruba U+1F1E6+1F1E8 ascension_island flag_for_ascension_island
  U+1F1E6+1F1FA australia flag_for_australia U+1F1E6+1F1F9 austria flag_for_austria
  U+1F1E6+1F1FF azerbaijan flag_for_azerbaijan U+1F519 back_arrow back
  U+1F171 b_button_(blood_type) b U+1F1E7+1F1F8 bahamas flag_for_bahamas U+1F1E7+1F1ED bahrain
  U+1F1E7+1F1ED flag_for_bahrain U+1F1E7+1F1E9 bangladesh flag_for_bangladesh
  U+1F1E7+1F1E7 barbados flag_for_barbados U+1F1E7+1F1FE belarus flag_for_belarus
  U+1F1E7+1F1EA belgium flag_for_belgium U+1F1E7+1F1FF belize flag_for_belize U+1F1E7+1F1EF benin
  U+1F1E7+1F1EF flag_for_benin U+1F1E7+1F1F2 bermuda flag_for_bermuda U+1F1E7+1F1F9 bhutan
  U+1F1E7+1F1F9 flag_for_bhutan U+1F1E7+1F1F4 bolivia flag_for_bolivia
  U+1F1E7+1F1E6 bosnia_&_herzegovina flag_for_bosnia_&_herzegovina U+1F1E7+1F1FC botswana
  U+1F1E7+1F1FC flag_for_botswana U+1F1E7+1F1FB bouvet_island flag_for_bouvet_island
  U+1F1E7+1F1F7 brazil flag_for_brazil U+1F1EE+1F1F4 british_indian_ocean_territory
  U+1F1EE+1F1F4 flag_for_british_indian_ocean_territory U+1F1FB+1F1EC british_virgin_islands
  U+1F1FB+1F1EC flag_for_british_virgin_islands U+1F1E7+1F1F3 brunei flag_for_brunei
  U+1F1E7+1F1EC bulgaria flag_for_bulgaria U+1F1E7+1F1EB burkina_faso flag_for_burkina_faso
  U+1F1E7+1F1EE burundi flag_for_burundi U+1F191 cl_button cl U+1F192 cool_button cool
  U+1F1F0+1F1ED cambodia flag_for_cambodia U+1F1E8+1F1F2 cameroon flag_for_cameroon
  U+1F1E8+1F1E6 canada flag_for_canada U+1F1EE+1F1E8 canary_islands flag_for_canary_islands
  U+264B cancer U+1F1E8+1F1FB cape_verde flag_for_cape_verde U+2651 capricorn
  U+1F1E7+1F1F6 caribbean_netherlands flag_for_caribbean_netherlands U+1F1F0+1F1FE cayman_islands
  U+1F1F0+1F1FE flag_for_cayman_islands U+1F1E8+1F1EB central_african_republic
  U+1F1E8+1F1EB flag_for_central_african_republic U+1F1EA+1F1E6 ceuta_&_melilla
  U+1F1EA+1F1E6 flag_for_ceuta_&_melilla U+1F1F9+1F1E9 chad flag_for_chad U+1F1E8+1F1F1 chile
  U+1F1E8+1F1F1 flag_for_chile U+1F1E8+1F1F3 china flag_for_china U+1F1E8+1F1FD christmas_island
  U+1F1E8+1F1FD flag_for_christmas_island U+1F384 christmas_tree U+1F1E8+1F1F5 clipperton_island
  U+1F1E8+1F1F5 flag_for_clipperton_island U+1F1E8+1F1E8 cocos_(keeling)_islands
  U+1F1E8+1F1E8 flag_for_cocos__islands U+1F1E8+1F1F4 colombia flag_for_colombia
  U+1F1F0+1F1F2 comoros flag_for_comoros U+1F1E8+1F1EC congo_-_brazzaville
  U+1F1E8+1F1EC flag_for_congo____brazzaville U+1F1E8+1F1E9 congo_-_kinshasa
  U+1F1E8+1F1E9 flag_for_congo____kinshasa U+1F1E8+1F1F0 cook_islands flag_for_cook_islands
  U+1F1E8+1F1F7 costa_rica flag_for_costa_rica U+1F1ED+1F1F7 croatia flag_for_croatia
  U+1F1E8+1F1FA cuba flag_for_cuba U+1F1E8+1F1FC curaçao flag_for_curaçao U+1F1E8+1F1FE cyprus
  U+1F1E8+1F1FE flag_for_cyprus U+1F1E8+1F1FF czechia flag_for_czech_republic
  U+1F1E8+1F1EE côte_d’ivoire flag_for_côte_d’ivoire U+1F1E9+1F1F0 denmark flag_for_denmark
  U+1F1E9+1F1EC diego_garcia flag_for_diego_garcia U+1F1E9+1F1EF djibouti flag_for_djibouti
  U+1F1E9+1F1F2 dominica flag_for_dominica U+1F1E9+1F1F4 dominican_republic
  U+1F1E9+1F1F4 flag_for_dominican_republic U+1F51A end_arrow end U+1F1EA+1F1E8 ecuador
  U+1F1EA+1F1E8 flag_for_ecuador U+1F1EA+1F1EC egypt flag_for_egypt U+1F1F8+1F1FB el_salvador
  U+1F1F8+1F1FB flag_for_el_salvador U+1F3F4+E0067+E0062+E0065+E006E+E0067+E007F england
  U+1F1EC+1F1F6 equatorial_guinea flag_for_equatorial_guinea U+1F1EA+1F1F7 eritrea
  U+1F1EA+1F1F7 flag_for_eritrea U+1F1EA+1F1EA estonia flag_for_estonia U+1F1EA+1F1F9 ethiopia
  U+1F1EA+1F1F9 flag_for_ethiopia U+1F1EA+1F1FA european_union flag_for_european_union
  U+1F193 free_button free U+1F1EB+1F1F0 falkland_islands flag_for_falkland_islands
  U+1F1EB+1F1F4 faroe_islands flag_for_faroe_islands U+1F1EB+1F1EF fiji flag_for_fiji
  U+1F1EB+1F1EE finland flag_for_finland U+1F1EB+1F1F7 france flag_for_france
  U+1F1EC+1F1EB french_guiana flag_for_french_guiana U+1F1F5+1F1EB french_polynesia
  U+1F1F5+1F1EB flag_for_french_polynesia U+1F1F9+1F1EB french_southern_territories
  U+1F1F9+1F1EB flag_for_french_southern_territories U+1F1EC+1F1E6 gabon flag_for_gabon
  U+1F1EC+1F1F2 gambia flag_for_gambia U+264A gemini U+1F1EC+1F1EA georgia flag_for_georgia
  U+1F1E9+1F1EA germany flag_for_germany U+1F1EC+1F1ED ghana flag_for_ghana
  U+1F1EC+1F1EE gibraltar flag_for_gibraltar U+1F1EC+1F1F7 greece flag_for_greece
  U+1F1EC+1F1F1 greenland flag_for_greenland U+1F1EC+1F1E9 grenada flag_for_grenada
  U+1F1EC+1F1F5 guadeloupe flag_for_guadeloupe U+1F1EC+1F1FA guam flag_for_guam
  U+1F1EC+1F1F9 guatemala flag_for_guatemala U+1F1EC+1F1EC guernsey flag_for_guernsey
  U+1F1EC+1F1F3 guinea flag_for_guinea U+1F1EC+1F1FC guinea-bissau flag_for_guinea__bissau
  U+1F1EC+1F1FE guyana flag_for_guyana U+1F1ED+1F1F9 haiti flag_for_haiti
  U+1F1ED+1F1F2 heard_&_mcdonald_islands flag_for_heard_&_mcdonald_islands U+1F1ED+1F1F3 honduras
  U+1F1ED+1F1F3 flag_for_honduras U+1F1ED+1F1F0 hong_kong_sar_china flag_for_hong_kong
  U+1F1ED+1F1FA hungary flag_for_hungary U+1F194 id_button id U+1F1EE+1F1F8 iceland
  U+1F1EE+1F1F8 flag_for_iceland U+1F1EE+1F1F3 india flag_for_india U+1F1EE+1F1E9 indonesia
  U+1F1EE+1F1E9 flag_for_indonesia U+1F1EE+1F1F7 iran flag_for_iran U+1F1EE+1F1F6 iraq
  U+1F1EE+1F1F6 flag_for_iraq U+1F1EE+1F1EA ireland flag_for_ireland U+1F1EE+1F1F2 isle_of_man
  U+1F1EE+1F1F2 flag_for_isle_of_man U+1F1EE+1F1F1 israel flag_for_israel U+1F1EE+1F1F9 italy
  U+1F1EE+1F1F9 flag_for_italy U+1F1EF+1F1F2 jamaica flag_for_jamaica U+1F5FE japan map_of_japan
  U+1F251 japanese_acceptable_button accept U+1F238 japanese_application_button u7533
  U+1F250 japanese_bargain_button ideograph_advantage U+1F3EF japanese_castle
  U+3297 japanese_congratulations_button congratulations U+1F239 japanese_discount_button u5272
  U+1F38E japanese_dolls dolls U+1F21A japanese_free_of_charge_button u7121
  U+1F201 japanese_here_button koko U+1F237 japanese_monthly_amount_button u6708
  U+1F235 japanese_no_vacancy_button u6e80 U+1F236 japanese_not_free_of_charge_button u6709
  U+1F23A japanese_open_for_business_button u55b6 U+1F234 japanese_passing_grade_button u5408
  U+1F3E3 japanese_post_office post_office U+1F232 japanese_prohibited_button u7981
  U+1F22F japanese_reserved_button u6307 U+3299 japanese_secret_button secret
  U+1F202 japanese_service_charge_button sa U+1F530 japanese_symbol_for_beginner beginner
  U+1F233 japanese_vacancy_button u7a7a U+1F1EF+1F1EA jersey flag_for_jersey U+1F1EF+1F1F4 jordan
  U+1F1EF+1F1F4 flag_for_jordan U+1F1F0+1F1FF kazakhstan flag_for_kazakhstan U+1F1F0+1F1EA kenya
  U+1F1F0+1F1EA flag_for_kenya U+1F1F0+1F1EE kiribati flag_for_kiribati U+1F1FD+1F1F0 kosovo
  U+1F1FD+1F1F0 flag_for_kosovo U+1F1F0+1F1FC kuwait flag_for_kuwait U+1F1F0+1F1EC kyrgyzstan
  U+1F1F0+1F1EC flag_for_kyrgyzstan U+1F1F1+1F1E6 laos flag_for_laos U+1F1F1+1F1FB latvia
  U+1F1F1+1F1FB flag_for_latvia U+1F1F1+1F1E7 lebanon flag_for_lebanon U+264C leo
  U+1F1F1+1F1F8 lesotho flag_for_lesotho U+1F1F1+1F1F7 liberia flag_for_liberia U+264E libra
  U+1F1F1+1F1FE libya flag_for_libya U+1F1F1+1F1EE liechtenstein flag_for_liechtenstein
  U+1F1F1+1F1F9 lithuania flag_for_lithuania U+1F1F1+1F1FA luxembourg flag_for_luxembourg
  U+1F1F2+1F1F4 macau_sar_china flag_for_macau U+1F1F2+1F1F0 macedonia flag_for_macedonia
  U+1F1F2+1F1EC madagascar flag_for_madagascar U+1F1F2+1F1FC malawi flag_for_malawi
  U+1F1F2+1F1FE malaysia flag_for_malaysia U+1F1F2+1F1FB maldives flag_for_maldives
  U+1F1F2+1F1F1 mali flag_for_mali U+1F1F2+1F1F9 malta flag_for_malta
  U+1F1F2+1F1ED marshall_islands flag_for_marshall_islands U+1F1F2+1F1F6 martinique
  U+1F1F2+1F1F6 flag_for_martinique U+1F1F2+1F1F7 mauritania flag_for_mauritania
  U+1F1F2+1F1FA mauritius flag_for_mauritius U+1F1FE+1F1F9 mayotte flag_for_mayotte
  U+1F1F2+1F1FD mexico flag_for_mexico U+1F1EB+1F1F2 micronesia flag_for_micronesia
  U+1F1F2+1F1E9 moldova flag_for_moldova U+1F1F2+1F1E8 monaco flag_for_monaco
  U+1F1F2+1F1F3 mongolia flag_for_mongolia U+1F1F2+1F1EA montenegro flag_for_montenegro
  U+1F1F2+1F1F8 montserrat flag_for_montserrat U+1F1F2+1F1E6 morocco flag_for_morocco
  U+1F1F2+1F1FF mozambique flag_for_mozambique U+1F936 mrs._claus
  U+1F936+1F3FF mrs._claus_dark_skin_tone U+1F936+1F3FB mrs._claus_light_skin_tone
  U+1F936+1F3FE mrs._claus_medium-dark_skin_tone U+1F936+1F3FC mrs._claus_medium-light_skin_tone
  U+1F936+1F3FD mrs._claus_medium_skin_tone U+1F1F2+1F1F2 myanmar_(burma) flag_for_myanmar
  U+1F195 new_button new U+1F196 ng_button ng U+1F1F3+1F1E6 namibia flag_for_namibia
  U+1F1F3+1F1F7 nauru flag_for_nauru U+1F1F3+1F1F5 nepal flag_for_nepal U+1F1F3+1F1F1 netherlands
  U+1F1F3+1F1F1 flag_for_netherlands U+1F1F3+1F1E8 new_caledonia flag_for_new_caledonia
  U+1F1F3+1F1FF new_zealand flag_for_new_zealand U+1F1F3+1F1EE nicaragua flag_for_nicaragua
  U+1F1F3+1F1EA niger flag_for_niger U+1F1F3+1F1EC nigeria flag_for_nigeria U+1F1F3+1F1FA niue
  U+1F1F3+1F1FA flag_for_niue U+1F1F3+1F1EB norfolk_island flag_for_norfolk_island
  U+1F1F0+1F1F5 north_korea flag_for_north_korea U+1F1F2+1F1F5 northern_mariana_islands
  U+1F1F2+1F1F5 flag_for_northern_mariana_islands U+1F1F3+1F1F4 norway flag_for_norway
  U+1F197 ok_button ok U+1F44C ok_hand U+1F44C+1F3FF ok_hand_dark_skin_tone
  U+1F44C+1F3FB ok_hand_light_skin_tone U+1F44C+1F3FE ok_hand_medium-dark_skin_tone
  U+1F44C+1F3FC ok_hand_medium-light_skin_tone U+1F44C+1F3FD ok_hand_medium_skin_tone
  U+1F51B on!_arrow on U+1F17E o_button_(blood_type) o2 U+1F1F4+1F1F2 oman flag_for_oman
  U+26CE ophiuchus U+1F17F p_button parking U+1F1F5+1F1F0 pakistan flag_for_pakistan
  U+1F1F5+1F1FC palau flag_for_palau U+1F1F5+1F1F8 palestinian_territories
  U+1F1F5+1F1F8 flag_for_palestinian_territories U+1F1F5+1F1E6 panama flag_for_panama
  U+1F1F5+1F1EC papua_new_guinea flag_for_papua_new_guinea U+1F1F5+1F1FE paraguay
  U+1F1F5+1F1FE flag_for_paraguay U+1F1F5+1F1EA peru flag_for_peru U+1F1F5+1F1ED philippines
  U+1F1F5+1F1ED flag_for_philippines U+2653 pisces U+1F1F5+1F1F3 pitcairn_islands
  U+1F1F5+1F1F3 flag_for_pitcairn_islands U+1F1F5+1F1F1 poland flag_for_poland
  U+1F1F5+1F1F9 portugal flag_for_portugal U+1F1F5+1F1F7 puerto_rico flag_for_puerto_rico
  U+1F1F6+1F1E6 qatar flag_for_qatar U+1F1F7+1F1F4 romania flag_for_romania U+1F1F7+1F1FA russia
  U+1F1F7+1F1FA flag_for_russia U+1F1F7+1F1FC rwanda flag_for_rwanda U+1F1F7+1F1EA réunion
  U+1F1F7+1F1EA flag_for_réunion U+1F51C soon_arrow soon U+1F198 sos_button sos U+2650 sagittarius
  U+1F1FC+1F1F8 samoa flag_for_samoa U+1F1F8+1F1F2 san_marino flag_for_san_marino
  U+1F385 santa_claus santa U+1F385+1F3FF santa_claus_dark_skin_tone
  U+1F385+1F3FB santa_claus_light_skin_tone U+1F385+1F3FE santa_claus_medium-dark_skin_tone
  U+1F385+1F3FC santa_claus_medium-light_skin_tone U+1F385+1F3FD santa_claus_medium_skin_tone
  U+1F1F8+1F1E6 saudi_arabia flag_for_saudi_arabia U+264F scorpio scorpius
  U+1F3F4+E0067+E0062+E0073+E0063+E0074+E007F scotland U+1F1F8+1F1F3 senegal flag_for_senegal
  U+1F1F7+1F1F8 serbia flag_for_serbia U+1F1F8+1F1E8 seychelles flag_for_seychelles
  U+1F1F8+1F1F1 sierra_leone flag_for_sierra_leone U+1F1F8+1F1EC singapore flag_for_singapore
  U+1F1F8+1F1FD sint_maarten flag_for_sint_maarten U+1F1F8+1F1F0 slovakia flag_for_slovakia
  U+1F1F8+1F1EE slovenia flag_for_slovenia U+1F1F8+1F1E7 solomon_islands flag_for_solomon_islands
  U+1F1F8+1F1F4 somalia flag_for_somalia U+1F1FF+1F1E6 south_africa flag_for_south_africa
  U+1F1EC+1F1F8 south_georgia_&_south_sandwich_islands
  U+1F1EC+1F1F8 flag_for_south_georgia_&_south_sandwich_islands U+1F1F0+1F1F7 south_korea
  U+1F1F0+1F1F7 flag_for_south_korea U+1F1F8+1F1F8 south_sudan flag_for_south_sudan
  U+1F1EA+1F1F8 spain flag_for_spain U+1F1F1+1F1F0 sri_lanka flag_for_sri_lanka
  U+1F1E7+1F1F1 st._barthélemy flag_for_st._barthélemy U+1F1F8+1F1ED st._helena
  U+1F1F8+1F1ED flag_for_st._helena U+1F1F0+1F1F3 st._kitts_&_nevis flag_for_st._kitts_&_nevis
  U+1F1F1+1F1E8 st._lucia flag_for_st._lucia U+1F1F2+1F1EB st._martin flag_for_st._martin
  U+1F1F5+1F1F2 st._pierre_&_miquelon flag_for_st._pierre_&_miquelon
  U+1F1FB+1F1E8 st._vincent_&_grenadines flag_for_st._vincent_&_grenadines
  U+1F5FD statue_of_liberty U+1F1F8+1F1E9 sudan flag_for_sudan U+1F1F8+1F1F7 suriname
  U+1F1F8+1F1F7 flag_for_suriname U+1F1F8+1F1EF svalbard_&_jan_mayen flag_for_svalbard_&_jan_mayen
  U+1F1F8+1F1FF swaziland flag_for_swaziland U+1F1F8+1F1EA sweden flag_for_sweden
  U+1F1E8+1F1ED switzerland flag_for_switzerland U+1F1F8+1F1FE syria flag_for_syria
  U+1F1F8+1F1F9 são_tomé_&_príncipe flag_for_são_tomé_&_príncipe U+1F996 t-rex U+1F51D top_arrow
  U+1F51D top U+1F1F9+1F1FC taiwan flag_for_taiwan U+1F1F9+1F1EF tajikistan flag_for_tajikistan
  U+1F1F9+1F1FF tanzania flag_for_tanzania U+2649 taurus U+1F1F9+1F1ED thailand flag_for_thailand
  U+1F1F9+1F1F1 timor-leste flag_for_timor__leste U+1F1F9+1F1EC togo flag_for_togo
  U+1F1F9+1F1F0 tokelau flag_for_tokelau U+1F5FC tokyo_tower U+1F1F9+1F1F4 tonga flag_for_tonga
  U+1F1F9+1F1F9 trinidad_&_tobago flag_for_trinidad_&_tobago U+1F1F9+1F1E6 tristan_da_cunha
  U+1F1F9+1F1E6 flag_for_tristan_da_cunha U+1F1F9+1F1F3 tunisia flag_for_tunisia U+1F983 turkey
  U+1F1F9+1F1F2 turkmenistan flag_for_turkmenistan U+1F1F9+1F1E8 turks_&_caicos_islands
  U+1F1F9+1F1E8 flag_for_turks_&_caicos_islands U+1F1F9+1F1FB tuvalu flag_for_tuvalu
  U+1F1FA+1F1F2 u.s._outlying_islands flag_for_u.s._outlying_islands
  U+1F1FB+1F1EE u.s._virgin_islands flag_for_u.s._virgin_islands U+1F199 up!_button up
  U+1F1FA+1F1EC uganda flag_for_uganda U+1F1FA+1F1E6 ukraine flag_for_ukraine
  U+1F1E6+1F1EA united_arab_emirates flag_for_united_arab_emirates U+1F1EC+1F1E7 united_kingdom
  U+1F1EC+1F1E7 flag_for_united_kingdom U+1F1FA+1F1F3 united_nations U+1F1FA+1F1F8 united_states
  U+1F1FA+1F1F8 flag_for_united_states U+1F1FA+1F1FE uruguay flag_for_uruguay
  U+1F1FA+1F1FF uzbekistan flag_for_uzbekistan U+1F19A vs_button vs U+1F1FB+1F1FA vanuatu
  U+1F1FB+1F1FA flag_for_vanuatu U+1F1FB+1F1E6 vatican_city flag_for_vatican_city
  U+1F1FB+1F1EA venezuela flag_for_venezuela U+1F1FB+1F1F3 vietnam flag_for_vietnam U+264D virgo
  U+1F3F4+E0067+E0062+E0077+E006C+E0073+E007F wales U+1F1FC+1F1EB wallis_&_futuna
  U+1F1FC+1F1EB flag_for_wallis_&_futuna U+1F1EA+1F1ED western_sahara flag_for_western_sahara
  U+1F1FE+1F1EA yemen flag_for_yemen U+1F1FF+1F1F2 zambia flag_for_zambia U+1F1FF+1F1FC zimbabwe
  U+1F1FF+1F1FC flag_for_zimbabwe U+1F9EE abacus U+1FA79 adhesive_bandage
  U+1F39F admission_tickets U+1F9D1 adult U+1F9D1+1F3FF adult_dark_skin_tone
  U+1F9D1+1F3FB adult_light_skin_tone U+1F9D1+1F3FE adult_medium-dark_skin_tone
  U+1F9D1+1F3FC adult_medium-light_skin_tone U+1F9D1+1F3FD adult_medium_skin_tone
  U+1F6A1 aerial_tramway U+2708 airplane U+1F6EC airplane_arrival airplane_arriving
  U+1F6EB airplane_departure U+23F0 alarm_clock U+2697 alembic U+1F47D alien U+1F47E alien_monster
  U+1F47E space_invader U+1F691 ambulance U+1F3C8 american_football football U+1F3FA amphora
  U+2693 anchor U+1F4A2 anger_symbol anger U+1F620 angry_face angry U+1F47F angry_face_with_horns
  U+1F47F imp U+1F627 anguished_face anguished U+1F41C ant U+1F4F6 antenna_bars signal_strength
  U+1F630 anxious_face_with_sweat cold_sweat U+1F69B articulated_lorry U+1F3A8 artist_palette art
  U+1F632 astonished_face astonished U+269B atom_symbol U+1F6FA auto_rickshaw U+1F697 automobile
  U+1F697 car red_car U+1F951 avocado U+1FA93 axe U+1F476 baby U+1F47C baby_angel angel
  U+1F47C+1F3FF baby_angel_dark_skin_tone U+1F47C+1F3FB baby_angel_light_skin_tone
  U+1F47C+1F3FE baby_angel_medium-dark_skin_tone U+1F47C+1F3FC baby_angel_medium-light_skin_tone
  U+1F47C+1F3FD baby_angel_medium_skin_tone U+1F37C baby_bottle U+1F424 baby_chick
  U+1F476+1F3FF baby_dark_skin_tone U+1F476+1F3FB baby_light_skin_tone
  U+1F476+1F3FE baby_medium-dark_skin_tone U+1F476+1F3FC baby_medium-light_skin_tone
  U+1F476+1F3FD baby_medium_skin_tone U+1F6BC baby_symbol U+1F447 backhand_index_pointing_down
  U+1F447 point_down U+1F447+1F3FF backhand_index_pointing_down_dark_skin_tone
  U+1F447+1F3FB backhand_index_pointing_down_light_skin_tone
  U+1F447+1F3FE backhand_index_pointing_down_medium-dark_skin_tone
  U+1F447+1F3FC backhand_index_pointing_down_medium-light_skin_tone
  U+1F447+1F3FD backhand_index_pointing_down_medium_skin_tone U+1F448 backhand_index_pointing_left
  U+1F448 point_left U+1F448+1F3FF backhand_index_pointing_left_dark_skin_tone
  U+1F448+1F3FB backhand_index_pointing_left_light_skin_tone
  U+1F448+1F3FE backhand_index_pointing_left_medium-dark_skin_tone
  U+1F448+1F3FC backhand_index_pointing_left_medium-light_skin_tone
  U+1F448+1F3FD backhand_index_pointing_left_medium_skin_tone
  U+1F449 backhand_index_pointing_right point_right
  U+1F449+1F3FF backhand_index_pointing_right_dark_skin_tone
  U+1F449+1F3FB backhand_index_pointing_right_light_skin_tone
  U+1F449+1F3FE backhand_index_pointing_right_medium-dark_skin_tone
  U+1F449+1F3FC backhand_index_pointing_right_medium-light_skin_tone
  U+1F449+1F3FD backhand_index_pointing_right_medium_skin_tone U+1F446 backhand_index_pointing_up
  U+1F446 point_up_2 U+1F446+1F3FF backhand_index_pointing_up_dark_skin_tone
  U+1F446+1F3FB backhand_index_pointing_up_light_skin_tone
  U+1F446+1F3FE backhand_index_pointing_up_medium-dark_skin_tone
  U+1F446+1F3FC backhand_index_pointing_up_medium-light_skin_tone
  U+1F446+1F3FD backhand_index_pointing_up_medium_skin_tone U+1F953 bacon U+1F9A1 badger
  U+1F3F8 badminton badminton_racquet_and_shuttlecock U+1F96F bagel U+1F6C4 baggage_claim
  U+1F956 baguette_bread U+2696 balance_scale scales U+1F9B2 bald U+1F468+200D+1F9B2 bald_man
  U+1F469+200D+1F9B2 bald_woman U+1FA70 ballet_shoes U+1F388 balloon
  U+1F5F3 ballot_box_with_ballot U+2611 ballot_box_with_check U+1F34C banana U+1FA95 banjo
  U+1F3E6 bank U+1F4CA bar_chart U+1F488 barber_pole barber U+26BE baseball U+1F9FA basket
  U+1F3C0 basketball U+1F987 bat U+1F6C1 bathtub U+1F50B battery U+1F3D6 beach_with_umbrella
  U+1F601 beaming_face_with_smiling_eyes grin U+1F43B bear_face bear U+1F9D4 bearded_person
  U+1F9D4+1F3FF bearded_person_dark_skin_tone U+1F9D4+1F3FB bearded_person_light_skin_tone
  U+1F9D4+1F3FE bearded_person_medium-dark_skin_tone
  U+1F9D4+1F3FC bearded_person_medium-light_skin_tone
  U+1F9D4+1F3FD bearded_person_medium_skin_tone U+1F493 beating_heart heartbeat U+1F6CF bed
  U+1F37A beer_mug beer U+1F514 bell U+1F515 bell_with_slash no_bell U+1F6CE bellhop_bell
  U+1F371 bento_box bento U+1F9C3 beverage_box U+1F6B2 bicycle bike U+1F459 bikini
  U+1F9E2 billed_cap U+2623 biohazard biohazard_sign U+1F426 bird U+1F382 birthday_cake birthday
  U+26AB black_circle U+1F3F4 black_flag waving_black_flag U+1F5A4 black_heart
  U+2B1B black_large_square U+25FE black_medium-small_square black_medium_small_square
  U+25FC black_medium_square U+2712 black_nib U+25AA black_small_square
  U+1F532 black_square_button U+1F471+200D+2642+FE0F blond-haired_man
  U+1F471+1F3FF+200D+2642+FE0F blond-haired_man_dark_skin_tone
  U+1F471+1F3FB+200D+2642+FE0F blond-haired_man_light_skin_tone
  U+1F471+1F3FE+200D+2642+FE0F blond-haired_man_medium-dark_skin_tone
  U+1F471+1F3FC+200D+2642+FE0F blond-haired_man_medium-light_skin_tone
  U+1F471+1F3FD+200D+2642+FE0F blond-haired_man_medium_skin_tone U+1F471 blond-haired_person
  U+1F471 person_with_blond_hair U+1F471+1F3FF blond-haired_person_dark_skin_tone
  U+1F471+1F3FB blond-haired_person_light_skin_tone
  U+1F471+1F3FE blond-haired_person_medium-dark_skin_tone
  U+1F471+1F3FC blond-haired_person_medium-light_skin_tone
  U+1F471+1F3FD blond-haired_person_medium_skin_tone U+1F471+200D+2640+FE0F blond-haired_woman
  U+1F471+1F3FF+200D+2640+FE0F blond-haired_woman_dark_skin_tone
  U+1F471+1F3FB+200D+2640+FE0F blond-haired_woman_light_skin_tone
  U+1F471+1F3FE+200D+2640+FE0F blond-haired_woman_medium-dark_skin_tone
  U+1F471+1F3FC+200D+2640+FE0F blond-haired_woman_medium-light_skin_tone
  U+1F471+1F3FD+200D+2640+FE0F blond-haired_woman_medium_skin_tone U+1F33C blossom
  U+1F421 blowfish U+1F4D8 blue_book U+1F535 blue_circle large_blue_circle U+1F499 blue_heart
  U+1F7E6 blue_square U+1F417 boar U+1F4A3 bomb U+1F9B4 bone U+1F516 bookmark
  U+1F4D1 bookmark_tabs U+1F4DA books U+1F37E bottle_with_popping_cork U+1F490 bouquet
  U+1F3F9 bow_and_arrow U+1F963 bowl_with_spoon U+1F3B3 bowling U+1F94A boxing_glove U+1F466 boy
  U+1F466+1F3FF boy_dark_skin_tone U+1F466+1F3FB boy_light_skin_tone
  U+1F466+1F3FE boy_medium-dark_skin_tone U+1F466+1F3FC boy_medium-light_skin_tone
  U+1F466+1F3FD boy_medium_skin_tone U+1F9E0 brain U+1F35E bread U+1F931 breast-feeding
  U+1F931+1F3FF breast-feeding_dark_skin_tone U+1F931+1F3FB breast-feeding_light_skin_tone
  U+1F931+1F3FE breast-feeding_medium-dark_skin_tone
  U+1F931+1F3FC breast-feeding_medium-light_skin_tone
  U+1F931+1F3FD breast-feeding_medium_skin_tone U+1F9F1 brick U+1F470 bride_with_veil
  U+1F470+1F3FF bride_with_veil_dark_skin_tone U+1F470+1F3FB bride_with_veil_light_skin_tone
  U+1F470+1F3FE bride_with_veil_medium-dark_skin_tone
  U+1F470+1F3FC bride_with_veil_medium-light_skin_tone
  U+1F470+1F3FD bride_with_veil_medium_skin_tone U+1F309 bridge_at_night U+1F4BC briefcase
  U+1FA72 briefs U+1F506 bright_button high_brightness U+1F966 broccoli U+1F494 broken_heart
  U+1F9F9 broom U+1F7E4 brown_circle U+1F90E brown_heart U+1F7EB brown_square U+1F41B bug
  U+1F3D7 building_construction U+1F685 bullet_train bullettrain_front U+1F32F burrito U+1F68C bus
  U+1F68F bus_stop busstop U+1F464 bust_in_silhouette U+1F465 busts_in_silhouette U+1F9C8 butter
  U+1F98B butterfly U+1F335 cactus U+1F4C6 calendar tear-off_calendar U+1F919 call_me_hand
  U+1F919+1F3FF call_me_hand_dark_skin_tone U+1F919+1F3FB call_me_hand_light_skin_tone
  U+1F919+1F3FE call_me_hand_medium-dark_skin_tone
  U+1F919+1F3FC call_me_hand_medium-light_skin_tone U+1F919+1F3FD call_me_hand_medium_skin_tone
  U+1F42B camel two-hump_camel U+1F4F7 camera U+1F4F8 camera_with_flash U+1F3D5 camping
  U+1F56F candle U+1F36C candy U+1F96B canned_food U+1F6F6 canoe U+1F5C3 card_file_box
  U+1F4C7 card_index U+1F5C2 card_index_dividers U+1F3A0 carousel_horse U+1F38F carp_streamer
  U+1F38F flags U+1F955 carrot U+1F3F0 castle european_castle U+1F431 cat cat_face
  U+1F639 cat_face_with_tears_of_joy joy_cat U+1F63C cat_face_with_wry_smile smirk_cat
  U+26D3 chains U+1FA91 chair U+1F4C9 chart_decreasing chart_with_downwards_trend
  U+1F4C8 chart_increasing chart_with_upwards_trend U+1F4B9 chart_increasing_with_yen chart
  U+1F9C0 cheese_wedge U+1F3C1 chequered_flag checkered_flag U+1F352 cherries
  U+1F338 cherry_blossom U+265F chess_pawn U+1F330 chestnut U+1F414 chicken U+1F9D2 child
  U+1F9D2+1F3FF child_dark_skin_tone U+1F9D2+1F3FB child_light_skin_tone
  U+1F9D2+1F3FE child_medium-dark_skin_tone U+1F9D2+1F3FC child_medium-light_skin_tone
  U+1F9D2+1F3FD child_medium_skin_tone U+1F6B8 children_crossing U+1F43F chipmunk
  U+1F36B chocolate_bar U+1F962 chopsticks U+26EA church U+1F6AC cigarette smoking U+1F3A6 cinema
  U+24C2 circled_m m U+1F3AA circus_tent U+1F3D9 cityscape U+1F306 cityscape_at_dusk city_sunset
  U+1F5DC clamp compression U+1F3AC clapper_board clapper U+1F44F clapping_hands clap
  U+1F44F+1F3FF clapping_hands_dark_skin_tone U+1F44F+1F3FB clapping_hands_light_skin_tone
  U+1F44F+1F3FE clapping_hands_medium-dark_skin_tone
  U+1F44F+1F3FC clapping_hands_medium-light_skin_tone
  U+1F44F+1F3FD clapping_hands_medium_skin_tone U+1F3DB classical_building
  U+1F37B clinking_beer_mugs beers U+1F942 clinking_glasses U+1F4CB clipboard
  U+1F503 clockwise_vertical_arrows arrows_clockwise U+1F4D5 closed_book
  U+1F4EA closed_mailbox_with_lowered_flag mailbox_closed U+1F4EB closed_mailbox_with_raised_flag
  U+1F4EB mailbox U+1F302 closed_umbrella U+2601 cloud U+1F329 cloud_with_lightning
  U+26C8 cloud_with_lightning_and_rain thunder_cloud_and_rain U+1F327 cloud_with_rain
  U+1F328 cloud_with_snow U+1F921 clown_face U+2663 club_suit clubs U+1F45D clutch_bag pouch
  U+1F9E5 coat U+1F378 cocktail_glass cocktail U+1F965 coconut U+26B0 coffin U+1F976 cold_face
  U+1F4A5 collision boom U+2604 comet U+1F9ED compass U+1F4BD computer_disk minidisc
  U+1F5B1 computer_mouse three_button_mouse U+1F38A confetti_ball U+1F616 confounded_face
  U+1F616 confounded U+1F615 confused_face confused U+1F6A7 construction
  U+1F477 construction_worker U+1F477+1F3FF construction_worker_dark_skin_tone
  U+1F477+1F3FB construction_worker_light_skin_tone
  U+1F477+1F3FE construction_worker_medium-dark_skin_tone
  U+1F477+1F3FC construction_worker_medium-light_skin_tone
  U+1F477+1F3FD construction_worker_medium_skin_tone U+1F39B control_knobs
  U+1F3EA convenience_store U+1F35A cooked_rice rice U+1F36A cookie U+1F373 cooking egg
  U+A9 copyright U+1F6CB couch_and_lamp U+1F504 counterclockwise_arrows_button
  U+1F504 arrows_counterclockwise U+1F491 couple_with_heart
  U+1F468+200D+2764+FE0F+200D+1F468 couple_with_heart_man_man
  U+1F469+200D+2764+FE0F+200D+1F468 couple_with_heart_woman_man
  U+1F469+200D+2764+FE0F+200D+1F469 couple_with_heart_woman_woman U+1F42E cow cow_face
  U+1F920 cowboy_hat_face U+1F980 crab U+1F58D crayon lower_left_crayon U+1F4B3 credit_card
  U+1F319 crescent_moon U+1F997 cricket U+1F3CF cricket_game cricket_bat_and_ball
  U+1F40A crocodile U+1F950 croissant U+274C cross_mark x U+274E cross_mark_button
  U+274E negative_squared_cross_mark U+1F91E crossed_fingers
  U+1F91E+1F3FF crossed_fingers_dark_skin_tone U+1F91E+1F3FB crossed_fingers_light_skin_tone
  U+1F91E+1F3FE crossed_fingers_medium-dark_skin_tone
  U+1F91E+1F3FC crossed_fingers_medium-light_skin_tone
  U+1F91E+1F3FD crossed_fingers_medium_skin_tone U+1F38C crossed_flags U+2694 crossed_swords
  U+1F451 crown U+1F63F crying_cat_face U+1F622 crying_face cry U+1F52E crystal_ball
  U+1F952 cucumber U+1F9C1 cupcake U+1F964 cup_with_straw U+1F94C curling_stone U+1F9B1 curly_hair
  U+1F468+200D+1F9B1 curly-haired_man U+1F469+200D+1F9B1 curly-haired_woman U+27B0 curly_loop
  U+1F4B1 currency_exchange U+1F35B curry_rice curry U+1F36E custard U+1F6C3 customs
  U+1F969 cut_of_meat U+1F300 cyclone U+1F5E1 dagger dagger_knife U+1F361 dango
  U+1F4A8 dashing_away dash U+1F9CF deaf_person U+1F333 deciduous_tree U+1F98C deer
  U+1F69A delivery_truck truck U+1F3EC department_store U+1F3DA derelict_house
  U+1F3DA derelict_house_building U+1F3DC desert U+1F3DD desert_island U+1F5A5 desktop_computer
  U+1F575 detective sleuth_or_spy U+1F575+1F3FF detective_dark_skin_tone
  U+1F575+1F3FB detective_light_skin_tone U+1F575+1F3FE detective_medium-dark_skin_tone
  U+1F575+1F3FC detective_medium-light_skin_tone U+1F575+1F3FD detective_medium_skin_tone
  U+2666 diamond_suit diamonds U+1F4A0 diamond_with_a_dot diamond_shape_with_a_dot_inside
  U+1F505 dim_button low_brightness U+1F3AF direct_hit dart U+1F61E disappointed_face disappointed
  U+1F93F diving_mask U+1FA94 diya_lamp U+1F4AB dizzy U+1F635 dizzy_face U+1F9EC dna U+1F436 dog
  U+1F436 dog_face U+1F4B5 dollar_banknote dollar U+1F42C dolphin flipper U+1F6AA door
  U+1F52F dotted_six-pointed_star six_pointed_star U+27BF double_curly_loop loop
  U+203C double_exclamation_mark bangbang U+1F369 doughnut U+1F54A dove dove_of_peace
  U+2199 down-left_arrow arrow_lower_left U+2198 down-right_arrow arrow_lower_right
  U+2B07 down_arrow arrow_down U+1F613 downcast_face_with_sweat sweat U+1F53D downwards_button
  U+1F53D arrow_down_small U+1F409 dragon U+1F432 dragon_face U+1F457 dress U+1F924 drooling_face
  U+1FA78 drop_of_blood U+1F4A7 droplet U+1F941 drum U+1F986 duck U+1F95F dumpling U+1F4C0 dvd
  U+1F4E7 e-mail e__mail U+1F985 eagle U+1F442 ear U+1F442+1F3FF ear_dark_skin_tone
  U+1F442+1F3FB ear_light_skin_tone U+1F442+1F3FE ear_medium-dark_skin_tone
  U+1F442+1F3FC ear_medium-light_skin_tone U+1F442+1F3FD ear_medium_skin_tone U+1F33D ear_of_corn
  U+1F33D corn U+1F9BB ear_with_hearing_aid U+1F346 eggplant U+2734 eight-pointed_star
  U+2734 eight_pointed_black_star U+2733 eight-spoked_asterisk eight_spoked_asterisk
  U+1F563 eight-thirty clock830 U+1F557 eight_o’clock clock8 U+23CF eject_button eject_symbol
  U+1F50C electric_plug U+1F418 elephant U+1F566 eleven-thirty clock1130 U+1F55A eleven_o’clock
  U+1F55A clock11 U+1F9DD elf U+1F9DD+1F3FF elf_dark_skin_tone U+1F9DD+1F3FB elf_light_skin_tone
  U+1F9DD+1F3FE elf_medium-dark_skin_tone U+1F9DD+1F3FC elf_medium-light_skin_tone
  U+1F9DD+1F3FD elf_medium_skin_tone U+2709 envelope email U+1F4E9 envelope_with_arrow
  U+1F4B6 euro_banknote euro U+1F332 evergreen_tree U+1F411 ewe sheep U+2757 exclamation_mark
  U+2757 exclamation heavy_exclamation_mark U+2049 exclamation_question_mark interrobang
  U+1F92F exploding_head U+1F611 expressionless_face expressionless U+1F441 eye
  U+1F441+FE0F+200D+1F5E8+FE0F eye_in_speech_bubble U+1F440 eyes U+1F618 face_blowing_a_kiss
  U+1F618 kissing_heart U+1F60B face_savoring_food yum U+1F631 face_screaming_in_fear scream
  U+1F92E face_vomiting U+1F92D face_with_hand_over_mouth U+1F915 face_with_head-bandage
  U+1F915 face_with_head__bandage U+1F637 face_with_medical_mask mask U+1F9D0 face_with_monocle
  U+1F62E face_with_open_mouth open_mouth U+1F928 face_with_raised_eyebrow
  U+1F644 face_with_rolling_eyes U+1F624 face_with_steam_from_nose triumph
  U+1F92C face_with_symbols_on_mouth U+1F602 face_with_tears_of_joy joy
  U+1F912 face_with_thermometer U+1F61B face_with_tongue stuck_out_tongue
  U+1F636 face_without_mouth no_mouth U+1F3ED factory U+1F9DA fairy
  U+1F9DA+1F3FF fairy_dark_skin_tone U+1F9DA+1F3FB fairy_light_skin_tone
  U+1F9DA+1F3FE fairy_medium-dark_skin_tone U+1F9DA+1F3FC fairy_medium-light_skin_tone
  U+1F9DA+1F3FD fairy_medium_skin_tone U+1F9C6 falafel U+1F342 fallen_leaf U+1F46A family
  U+1F468+200D+1F466 family_man_boy U+1F468+200D+1F466+200D+1F466 family_man_boy_boy
  U+1F468+200D+1F467 family_man_girl U+1F468+200D+1F467+200D+1F466 family_man_girl_boy
  U+1F468+200D+1F467+200D+1F467 family_man_girl_girl
  U+1F468+200D+1F468+200D+1F466 family_man_man_boy
  U+1F468+200D+1F468+200D+1F466+200D+1F466 family_man_man_boy_boy
  U+1F468+200D+1F468+200D+1F467 family_man_man_girl
  U+1F468+200D+1F468+200D+1F467+200D+1F466 family_man_man_girl_boy
  U+1F468+200D+1F468+200D+1F467+200D+1F467 family_man_man_girl_girl
  U+1F468+200D+1F469+200D+1F466 family_man_woman_boy
  U+1F468+200D+1F469+200D+1F466+200D+1F466 family_man_woman_boy_boy
  U+1F468+200D+1F469+200D+1F467 family_man_woman_girl
  U+1F468+200D+1F469+200D+1F467+200D+1F466 family_man_woman_girl_boy
  U+1F468+200D+1F469+200D+1F467+200D+1F467 family_man_woman_girl_girl
  U+1F469+200D+1F466 family_woman_boy U+1F469+200D+1F466+200D+1F466 family_woman_boy_boy
  U+1F469+200D+1F467 family_woman_girl U+1F469+200D+1F467+200D+1F466 family_woman_girl_boy
  U+1F469+200D+1F467+200D+1F467 family_woman_girl_girl
  U+1F469+200D+1F469+200D+1F466 family_woman_woman_boy
  U+1F469+200D+1F469+200D+1F466+200D+1F466 family_woman_woman_boy_boy
  U+1F469+200D+1F469+200D+1F467 family_woman_woman_girl
  U+1F469+200D+1F469+200D+1F467+200D+1F466 family_woman_woman_girl_boy
  U+1F469+200D+1F469+200D+1F467+200D+1F467 family_woman_woman_girl_girl U+23E9 fast-forward_button
  U+23E9 fast_forward U+23EC fast_down_button arrow_double_down U+23EA fast_reverse_button rewind
  U+23EB fast_up_button arrow_double_up U+1F4E0 fax_machine fax U+1F628 fearful_face fearful
  U+2640 female_sign U+1F3A1 ferris_wheel U+26F4 ferry U+1F3D1 field_hockey
  U+1F3D1 field_hockey_stick_and_ball U+1F5C4 file_cabinet U+1F4C1 file_folder U+1F39E film_frames
  U+1F4FD film_projector U+1F525 fire U+1F9EF fire_extinguisher U+1F9E8 firecracker
  U+1F692 fire_engine U+1F386 fireworks U+1F313 first_quarter_moon U+1F31B first_quarter_moon_face
  U+1F31B first_quarter_moon_with_face U+1F41F fish U+1F365 fish_cake_with_swirl fish_cake
  U+1F3A3 fishing_pole fishing_pole_and_fish U+1F560 five-thirty clock530 U+1F554 five_o’clock
  U+1F554 clock5 U+26F3 flag_in_hole golf U+1F9A9 flamingo U+1F526 flashlight U+1F97F flat_shoe
  U+269C fleur-de-lis fleur__de__lis U+1F4AA flexed_biceps muscle
  U+1F4AA+1F3FF flexed_biceps_dark_skin_tone U+1F4AA+1F3FB flexed_biceps_light_skin_tone
  U+1F4AA+1F3FE flexed_biceps_medium-dark_skin_tone
  U+1F4AA+1F3FC flexed_biceps_medium-light_skin_tone U+1F4AA+1F3FD flexed_biceps_medium_skin_tone
  U+1F4BE floppy_disk U+1F3B4 flower_playing_cards U+1F633 flushed_face flushed
  U+1F94F flying_disc U+1F6F8 flying_saucer U+1F32B fog U+1F301 foggy U+1F64F folded_hands pray
  U+1F64F+1F3FF folded_hands_dark_skin_tone U+1F64F+1F3FB folded_hands_light_skin_tone
  U+1F64F+1F3FE folded_hands_medium-dark_skin_tone
  U+1F64F+1F3FC folded_hands_medium-light_skin_tone U+1F64F+1F3FD folded_hands_medium_skin_tone
  U+1F9B6 foot U+1F463 footprints U+1F374 fork_and_knife U+1F37D fork_and_knife_with_plate
  U+1F960 fortune_cookie U+26F2 fountain U+1F58B fountain_pen lower_left_fountain_pen
  U+1F55F four-thirty clock430 U+1F340 four_leaf_clover U+1F553 four_o’clock clock4
  U+1F98A fox_face U+1F5BC framed_picture frame_with_picture U+1F35F french_fries fries
  U+1F364 fried_shrimp U+1F438 frog_face frog U+1F425 front-facing_baby_chick hatched_chick
  U+2639 frowning_face white_frowning_face U+1F626 frowning_face_with_open_mouth frowning
  U+26FD fuel_pump fuelpump U+1F315 full_moon U+1F31D full_moon_face full_moon_with_face
  U+26B1 funeral_urn U+1F3B2 game_die U+1F9C4 garlic U+2699 gear U+1F48E gem_stone gem
  U+1F9DE genie U+1F47B ghost U+1F992 giraffe U+1F467 girl U+1F467+1F3FF girl_dark_skin_tone
  U+1F467+1F3FB girl_light_skin_tone U+1F467+1F3FE girl_medium-dark_skin_tone
  U+1F467+1F3FC girl_medium-light_skin_tone U+1F467+1F3FD girl_medium_skin_tone
  U+1F95B glass_of_milk U+1F453 glasses eyeglasses U+1F30E globe_showing_americas earth_americas
  U+1F30F globe_showing_asia-australia earth_asia U+1F30D globe_showing_europe-africa earth_africa
  U+1F310 globe_with_meridians U+1F9E4 gloves U+1F31F glowing_star star2 U+1F945 goal_net
  U+1F410 goat U+1F47A goblin japanese_goblin U+1F97D goggles U+1F98D gorilla
  U+1F393 graduation_cap mortar_board U+1F347 grapes U+1F34F green_apple U+1F4D7 green_book
  U+1F7E2 green_circle U+1F49A green_heart U+1F957 green_salad U+1F7E9 green_square
  U+1F62C grimacing_face grimacing U+1F63A grinning_cat_face smiley_cat
  U+1F638 grinning_cat_face_with_smiling_eyes smile_cat U+1F600 grinning_face grinning
  U+1F603 grinning_face_with_big_eyes smiley U+1F604 grinning_face_with_smiling_eyes smile
  U+1F605 grinning_face_with_sweat sweat_smile U+1F606 grinning_squinting_face laughing satisfied
  U+1F497 growing_heart heartpulse U+1F482 guard guardsman U+1F482+1F3FF guard_dark_skin_tone
  U+1F482+1F3FB guard_light_skin_tone U+1F482+1F3FE guard_medium-dark_skin_tone
  U+1F482+1F3FC guard_medium-light_skin_tone U+1F482+1F3FD guard_medium_skin_tone
  U+1F9AE guide_dog U+1F3B8 guitar U+1F354 hamburger U+1F528 hammer U+2692 hammer_and_pick
  U+1F6E0 hammer_and_wrench U+1F439 hamster_face hamster U+1F590 hand_with_fingers_splayed
  U+1F590 raised_hand_with_fingers_splayed U+1F590+1F3FF hand_with_fingers_splayed_dark_skin_tone
  U+1F590+1F3FB hand_with_fingers_splayed_light_skin_tone
  U+1F590+1F3FE hand_with_fingers_splayed_medium-dark_skin_tone
  U+1F590+1F3FC hand_with_fingers_splayed_medium-light_skin_tone
  U+1F590+1F3FD hand_with_fingers_splayed_medium_skin_tone U+1F45C handbag U+1F91D handshake
  U+1F423 hatching_chick U+1F3A7 headphone headphones U+1F649 hear-no-evil_monkey hear_no_evil
  U+1F49F heart_decoration U+2665 heart_suit hearts U+1F498 heart_with_arrow cupid
  U+1F49D heart_with_ribbon gift_heart U+2714 heavy_check_mark U+2797 heavy_division_sign
  U+1F4B2 heavy_dollar_sign U+2763 heavy_heart_exclamation heavy_heart_exclamation_mark_ornament
  U+2B55 heavy_large_circle o U+2796 heavy_minus_sign U+2716 heavy_multiplication_x
  U+2795 heavy_plus_sign U+1F994 hedgehog U+1F681 helicopter U+1F33F herb U+1F33A hibiscus
  U+1F460 high-heeled_shoe high_heel U+1F684 high-speed_train bullettrain_side U+26A1 high_voltage
  U+26A1 zap U+1F97E hiking_boot U+1F6D5 hindu_temple U+1F99B hippopotamus U+1F573 hole
  U+1F36F honey_pot U+1F41D honeybee bee U+1F6A5 horizontal_traffic_light traffic_light
  U+1F434 horse horse_face U+1F3C7 horse_racing U+1F3C7+1F3FF horse_racing_dark_skin_tone
  U+1F3C7+1F3FB horse_racing_light_skin_tone U+1F3C7+1F3FE horse_racing_medium-dark_skin_tone
  U+1F3C7+1F3FC horse_racing_medium-light_skin_tone U+1F3C7+1F3FD horse_racing_medium_skin_tone
  U+1F3E5 hospital U+2615 hot_beverage coffee U+1F32D hot_dog U+1F975 hot_face U+1F336 hot_pepper
  U+2668 hot_springs hotsprings U+1F3E8 hotel U+231B hourglass_done hourglass
  U+23F3 hourglass_not_done hourglass_flowing_sand U+1F3E0 house U+1F3E1 house_with_garden
  U+1F3D8 houses house_buildings U+1F917 hugging_face U+1F4AF hundred_points 100
  U+1F62F hushed_face hushed U+1F9CA ice U+1F368 ice_cream U+1F3D2 ice_hockey
  U+1F3D2 ice_hockey_stick_and_puck U+26F8 ice_skate U+1F4E5 inbox_tray U+1F4E8 incoming_envelope
  U+261D index_pointing_up point_up U+261D+1F3FF index_pointing_up_dark_skin_tone
  U+261D+1F3FB index_pointing_up_light_skin_tone
  U+261D+1F3FE index_pointing_up_medium-dark_skin_tone
  U+261D+1F3FC index_pointing_up_medium-light_skin_tone
  U+261D+1F3FD index_pointing_up_medium_skin_tone U+267E infinity U+2139 information
  U+2139 information_source U+1F524 input_latin_letters abc U+1F521 input_latin_lowercase abcd
  U+1F520 input_latin_uppercase capital_abcd U+1F522 input_numbers 1234 U+1F523 input_symbols
  U+1F523 symbols U+1F383 jack-o-lantern jack_o_lantern U+1F456 jeans U+1F9E9 jigsaw U+1F0CF joker
  U+1F0CF black_joker U+1F579 joystick U+1F54B kaaba U+1F998 kangaroo U+1F511 key U+2328 keyboard
  U+23+FE0F+20E3 keycap_# U+2A+FE0F+20E3 keycap_* U+30+FE0F+20E3 keycap_0 zero
  U+31+FE0F+20E3 keycap_1 one U+1F51F keycap_10 ten U+32+FE0F+20E3 keycap_2 two
  U+33+FE0F+20E3 keycap_3 three U+34+FE0F+20E3 keycap_4 four U+35+FE0F+20E3 keycap_5 five
  U+36+FE0F+20E3 keycap_6 six U+37+FE0F+20E3 keycap_7 seven U+38+FE0F+20E3 keycap_8 eight
  U+39+FE0F+20E3 keycap_9 nine U+1F6F4 kick_scooter U+1F458 kimono U+1F48B kiss kiss_mark
  U+1F468+200D+2764+FE0F+200D+1F48B+200D+1F468 kiss_man_man
  U+1F469+200D+2764+FE0F+200D+1F48B+200D+1F468 kiss_woman_man
  U+1F469+200D+2764+FE0F+200D+1F48B+200D+1F469 kiss_woman_woman U+1F63D kissing_cat_face
  U+1F63D kissing_cat U+1F617 kissing_face kissing U+1F61A kissing_face_with_closed_eyes
  U+1F61A kissing_closed_eyes U+1F619 kissing_face_with_smiling_eyes kissing_smiling_eyes
  U+1F52A kitchen_knife hocho knife U+1FA81 kite U+1F95D kiwi_fruit U+1F428 koala U+1F97C lab_coat
  U+1F3F7 label U+1F94D lacrosse U+1F41E lady_beetle beetle U+1F4BB laptop_computer computer
  U+1F537 large_blue_diamond U+1F536 large_orange_diamond U+1F317 last_quarter_moon
  U+1F31C last_quarter_moon_face last_quarter_moon_with_face U+23EE last_track_button
  U+23EE black_left__pointing_double_triangle_with_vertical_bar U+271D latin_cross
  U+1F343 leaf_fluttering_in_wind leaves U+1F96C leafy_green U+1F4D2 ledger
  U+1F91B left-facing_fist U+1F91B+1F3FF left-facing_fist_dark_skin_tone
  U+1F91B+1F3FB left-facing_fist_light_skin_tone
  U+1F91B+1F3FE left-facing_fist_medium-dark_skin_tone
  U+1F91B+1F3FC left-facing_fist_medium-light_skin_tone
  U+1F91B+1F3FD left-facing_fist_medium_skin_tone U+2194 left-right_arrow left_right_arrow
  U+2B05 left_arrow arrow_left U+21AA left_arrow_curving_right arrow_right_hook
  U+1F6C5 left_luggage U+1F5E8 left_speech_bubble U+1F9B5 leg U+1F34B lemon U+1F406 leopard
  U+1F39A level_slider U+1F4A1 light_bulb bulb U+1F688 light_rail U+1F517 link
  U+1F587 linked_paperclips U+1F981 lion_face U+1F484 lipstick U+1F6AE litter_in_bin_sign
  U+1F6AE put_litter_in_its_place U+1F98E lizard U+1F999 llama U+1F99E lobster U+1F512 locked lock
  U+1F510 locked_with_key closed_lock_with_key U+1F50F locked_with_pen lock_with_ink_pen
  U+1F682 locomotive steam_locomotive U+1F36D lollipop U+1F9F4 lotion_bottle
  U+1F62D loudly_crying_face sob U+1F4E2 loudspeaker U+1F91F love-you_gesture
  U+1F91F+1F3FF love-you_gesture_dark_skin_tone U+1F91F+1F3FB love-you_gesture_light_skin_tone
  U+1F91F+1F3FE love-you_gesture_medium-dark_skin_tone
  U+1F91F+1F3FC love-you_gesture_medium-light_skin_tone
  U+1F91F+1F3FD love-you_gesture_medium_skin_tone U+1F3E9 love_hotel U+1F48C love_letter
  U+1F9F3 luggage U+1F925 lying_face U+1F9D9 mage U+1F9D9+1F3FF mage_dark_skin_tone
  U+1F9D9+1F3FB mage_light_skin_tone U+1F9D9+1F3FE mage_medium-dark_skin_tone
  U+1F9D9+1F3FC mage_medium-light_skin_tone U+1F9D9+1F3FD mage_medium_skin_tone U+1F9F2 magnet
  U+1F50D magnifying_glass_tilted_left mag U+1F50E magnifying_glass_tilted_right mag_right
  U+1F004 mahjong_red_dragon mahjong U+2642 male_sign U+1F468 man
  U+1F46B man_and_woman_holding_hands couple U+1F468+200D+1F3A8 man_artist
  U+1F468+1F3FF+200D+1F3A8 man_artist_dark_skin_tone
  U+1F468+1F3FB+200D+1F3A8 man_artist_light_skin_tone
  U+1F468+1F3FE+200D+1F3A8 man_artist_medium-dark_skin_tone
  U+1F468+1F3FC+200D+1F3A8 man_artist_medium-light_skin_tone
  U+1F468+1F3FD+200D+1F3A8 man_artist_medium_skin_tone U+1F468+200D+1F680 man_astronaut
  U+1F468+1F3FF+200D+1F680 man_astronaut_dark_skin_tone
  U+1F468+1F3FB+200D+1F680 man_astronaut_light_skin_tone
  U+1F468+1F3FE+200D+1F680 man_astronaut_medium-dark_skin_tone
  U+1F468+1F3FC+200D+1F680 man_astronaut_medium-light_skin_tone
  U+1F468+1F3FD+200D+1F680 man_astronaut_medium_skin_tone U+1F6B4+200D+2642+FE0F man_biking
  U+1F6B4+1F3FF+200D+2642+FE0F man_biking_dark_skin_tone
  U+1F6B4+1F3FB+200D+2642+FE0F man_biking_light_skin_tone
  U+1F6B4+1F3FE+200D+2642+FE0F man_biking_medium-dark_skin_tone
  U+1F6B4+1F3FC+200D+2642+FE0F man_biking_medium-light_skin_tone
  U+1F6B4+1F3FD+200D+2642+FE0F man_biking_medium_skin_tone
  U+26F9+FE0F+200D+2642+FE0F man_bouncing_ball
  U+26F9+1F3FF+200D+2642+FE0F man_bouncing_ball_dark_skin_tone
  U+26F9+1F3FB+200D+2642+FE0F man_bouncing_ball_light_skin_tone
  U+26F9+1F3FE+200D+2642+FE0F man_bouncing_ball_medium-dark_skin_tone
  U+26F9+1F3FC+200D+2642+FE0F man_bouncing_ball_medium-light_skin_tone
  U+26F9+1F3FD+200D+2642+FE0F man_bouncing_ball_medium_skin_tone U+1F647+200D+2642+FE0F man_bowing
  U+1F647+1F3FF+200D+2642+FE0F man_bowing_dark_skin_tone
  U+1F647+1F3FB+200D+2642+FE0F man_bowing_light_skin_tone
  U+1F647+1F3FE+200D+2642+FE0F man_bowing_medium-dark_skin_tone
  U+1F647+1F3FC+200D+2642+FE0F man_bowing_medium-light_skin_tone
  U+1F647+1F3FD+200D+2642+FE0F man_bowing_medium_skin_tone U+1F938+200D+2642+FE0F man_cartwheeling
  U+1F938+1F3FF+200D+2642+FE0F man_cartwheeling_dark_skin_tone
  U+1F938+1F3FB+200D+2642+FE0F man_cartwheeling_light_skin_tone
  U+1F938+1F3FE+200D+2642+FE0F man_cartwheeling_medium-dark_skin_tone
  U+1F938+1F3FC+200D+2642+FE0F man_cartwheeling_medium-light_skin_tone
  U+1F938+1F3FD+200D+2642+FE0F man_cartwheeling_medium_skin_tone
  U+1F9D7+200D+2642+FE0F man_climbing U+1F9D7+1F3FF+200D+2642+FE0F man_climbing_dark_skin_tone
  U+1F9D7+1F3FB+200D+2642+FE0F man_climbing_light_skin_tone
  U+1F9D7+1F3FE+200D+2642+FE0F man_climbing_medium-dark_skin_tone
  U+1F9D7+1F3FC+200D+2642+FE0F man_climbing_medium-light_skin_tone
  U+1F9D7+1F3FD+200D+2642+FE0F man_climbing_medium_skin_tone
  U+1F477+200D+2642+FE0F man_construction_worker
  U+1F477+1F3FF+200D+2642+FE0F man_construction_worker_dark_skin_tone
  U+1F477+1F3FB+200D+2642+FE0F man_construction_worker_light_skin_tone
  U+1F477+1F3FE+200D+2642+FE0F man_construction_worker_medium-dark_skin_tone
  U+1F477+1F3FC+200D+2642+FE0F man_construction_worker_medium-light_skin_tone
  U+1F477+1F3FD+200D+2642+FE0F man_construction_worker_medium_skin_tone
  U+1F468+200D+1F373 man_cook U+1F468+1F3FF+200D+1F373 man_cook_dark_skin_tone
  U+1F468+1F3FB+200D+1F373 man_cook_light_skin_tone
  U+1F468+1F3FE+200D+1F373 man_cook_medium-dark_skin_tone
  U+1F468+1F3FC+200D+1F373 man_cook_medium-light_skin_tone
  U+1F468+1F3FD+200D+1F373 man_cook_medium_skin_tone U+1F57A man_dancing
  U+1F57A+1F3FF man_dancing_dark_skin_tone U+1F57A+1F3FB man_dancing_light_skin_tone
  U+1F57A+1F3FE man_dancing_medium-dark_skin_tone U+1F57A+1F3FC man_dancing_medium-light_skin_tone
  U+1F57A+1F3FD man_dancing_medium_skin_tone U+1F468+1F3FF man_dark_skin_tone
  U+1F575+FE0F+200D+2642+FE0F man_detective
  U+1F575+1F3FF+200D+2642+FE0F man_detective_dark_skin_tone
  U+1F575+1F3FB+200D+2642+FE0F man_detective_light_skin_tone
  U+1F575+1F3FE+200D+2642+FE0F man_detective_medium-dark_skin_tone
  U+1F575+1F3FC+200D+2642+FE0F man_detective_medium-light_skin_tone
  U+1F575+1F3FD+200D+2642+FE0F man_detective_medium_skin_tone U+1F9DD+200D+2642+FE0F man_elf
  U+1F9DD+1F3FF+200D+2642+FE0F man_elf_dark_skin_tone
  U+1F9DD+1F3FB+200D+2642+FE0F man_elf_light_skin_tone
  U+1F9DD+1F3FE+200D+2642+FE0F man_elf_medium-dark_skin_tone
  U+1F9DD+1F3FC+200D+2642+FE0F man_elf_medium-light_skin_tone
  U+1F9DD+1F3FD+200D+2642+FE0F man_elf_medium_skin_tone U+1F926+200D+2642+FE0F man_facepalming
  U+1F926+1F3FF+200D+2642+FE0F man_facepalming_dark_skin_tone
  U+1F926+1F3FB+200D+2642+FE0F man_facepalming_light_skin_tone
  U+1F926+1F3FE+200D+2642+FE0F man_facepalming_medium-dark_skin_tone
  U+1F926+1F3FC+200D+2642+FE0F man_facepalming_medium-light_skin_tone
  U+1F926+1F3FD+200D+2642+FE0F man_facepalming_medium_skin_tone
  U+1F468+200D+1F3ED man_factory_worker U+1F468+1F3FF+200D+1F3ED man_factory_worker_dark_skin_tone
  U+1F468+1F3FB+200D+1F3ED man_factory_worker_light_skin_tone
  U+1F468+1F3FE+200D+1F3ED man_factory_worker_medium-dark_skin_tone
  U+1F468+1F3FC+200D+1F3ED man_factory_worker_medium-light_skin_tone
  U+1F468+1F3FD+200D+1F3ED man_factory_worker_medium_skin_tone U+1F9DA+200D+2642+FE0F man_fairy
  U+1F9DA+1F3FF+200D+2642+FE0F man_fairy_dark_skin_tone
  U+1F9DA+1F3FB+200D+2642+FE0F man_fairy_light_skin_tone
  U+1F9DA+1F3FE+200D+2642+FE0F man_fairy_medium-dark_skin_tone
  U+1F9DA+1F3FC+200D+2642+FE0F man_fairy_medium-light_skin_tone
  U+1F9DA+1F3FD+200D+2642+FE0F man_fairy_medium_skin_tone U+1F468+200D+1F33E man_farmer
  U+1F468+1F3FF+200D+1F33E man_farmer_dark_skin_tone
  U+1F468+1F3FB+200D+1F33E man_farmer_light_skin_tone
  U+1F468+1F3FE+200D+1F33E man_farmer_medium-dark_skin_tone
  U+1F468+1F3FC+200D+1F33E man_farmer_medium-light_skin_tone
  U+1F468+1F3FD+200D+1F33E man_farmer_medium_skin_tone U+1F468+200D+1F692 man_firefighter
  U+1F468+1F3FF+200D+1F692 man_firefighter_dark_skin_tone
  U+1F468+1F3FB+200D+1F692 man_firefighter_light_skin_tone
  U+1F468+1F3FE+200D+1F692 man_firefighter_medium-dark_skin_tone
  U+1F468+1F3FC+200D+1F692 man_firefighter_medium-light_skin_tone
  U+1F468+1F3FD+200D+1F692 man_firefighter_medium_skin_tone U+1F64D+200D+2642+FE0F man_frowning
  U+1F64D+1F3FF+200D+2642+FE0F man_frowning_dark_skin_tone
  U+1F64D+1F3FB+200D+2642+FE0F man_frowning_light_skin_tone
  U+1F64D+1F3FE+200D+2642+FE0F man_frowning_medium-dark_skin_tone
  U+1F64D+1F3FC+200D+2642+FE0F man_frowning_medium-light_skin_tone
  U+1F64D+1F3FD+200D+2642+FE0F man_frowning_medium_skin_tone U+1F9DE+200D+2642+FE0F man_genie
  U+1F645+200D+2642+FE0F man_gesturing_no
  U+1F645+1F3FF+200D+2642+FE0F man_gesturing_no_dark_skin_tone
  U+1F645+1F3FB+200D+2642+FE0F man_gesturing_no_light_skin_tone
  U+1F645+1F3FE+200D+2642+FE0F man_gesturing_no_medium-dark_skin_tone
  U+1F645+1F3FC+200D+2642+FE0F man_gesturing_no_medium-light_skin_tone
  U+1F645+1F3FD+200D+2642+FE0F man_gesturing_no_medium_skin_tone
  U+1F646+200D+2642+FE0F man_gesturing_ok
  U+1F646+1F3FF+200D+2642+FE0F man_gesturing_ok_dark_skin_tone
  U+1F646+1F3FB+200D+2642+FE0F man_gesturing_ok_light_skin_tone
  U+1F646+1F3FE+200D+2642+FE0F man_gesturing_ok_medium-dark_skin_tone
  U+1F646+1F3FC+200D+2642+FE0F man_gesturing_ok_medium-light_skin_tone
  U+1F646+1F3FD+200D+2642+FE0F man_gesturing_ok_medium_skin_tone
  U+1F487+200D+2642+FE0F man_getting_haircut
  U+1F487+1F3FF+200D+2642+FE0F man_getting_haircut_dark_skin_tone
  U+1F487+1F3FB+200D+2642+FE0F man_getting_haircut_light_skin_tone
  U+1F487+1F3FE+200D+2642+FE0F man_getting_haircut_medium-dark_skin_tone
  U+1F487+1F3FC+200D+2642+FE0F man_getting_haircut_medium-light_skin_tone
  U+1F487+1F3FD+200D+2642+FE0F man_getting_haircut_medium_skin_tone
  U+1F486+200D+2642+FE0F man_getting_massage
  U+1F486+1F3FF+200D+2642+FE0F man_getting_massage_dark_skin_tone
  U+1F486+1F3FB+200D+2642+FE0F man_getting_massage_light_skin_tone
  U+1F486+1F3FE+200D+2642+FE0F man_getting_massage_medium-dark_skin_tone
  U+1F486+1F3FC+200D+2642+FE0F man_getting_massage_medium-light_skin_tone
  U+1F486+1F3FD+200D+2642+FE0F man_getting_massage_medium_skin_tone
  U+1F3CC+FE0F+200D+2642+FE0F man_golfing U+1F3CC+1F3FF+200D+2642+FE0F man_golfing_dark_skin_tone
  U+1F3CC+1F3FB+200D+2642+FE0F man_golfing_light_skin_tone
  U+1F3CC+1F3FE+200D+2642+FE0F man_golfing_medium-dark_skin_tone
  U+1F3CC+1F3FC+200D+2642+FE0F man_golfing_medium-light_skin_tone
  U+1F3CC+1F3FD+200D+2642+FE0F man_golfing_medium_skin_tone U+1F482+200D+2642+FE0F man_guard
  U+1F482+1F3FF+200D+2642+FE0F man_guard_dark_skin_tone
  U+1F482+1F3FB+200D+2642+FE0F man_guard_light_skin_tone
  U+1F482+1F3FE+200D+2642+FE0F man_guard_medium-dark_skin_tone
  U+1F482+1F3FC+200D+2642+FE0F man_guard_medium-light_skin_tone
  U+1F482+1F3FD+200D+2642+FE0F man_guard_medium_skin_tone U+1F468+200D+2695+FE0F man_health_worker
  U+1F468+1F3FF+200D+2695+FE0F man_health_worker_dark_skin_tone
  U+1F468+1F3FB+200D+2695+FE0F man_health_worker_light_skin_tone
  U+1F468+1F3FE+200D+2695+FE0F man_health_worker_medium-dark_skin_tone
  U+1F468+1F3FC+200D+2695+FE0F man_health_worker_medium-light_skin_tone
  U+1F468+1F3FD+200D+2695+FE0F man_health_worker_medium_skin_tone
  U+1F9D8+200D+2642+FE0F man_in_lotus_position
  U+1F9D8+1F3FF+200D+2642+FE0F man_in_lotus_position_dark_skin_tone
  U+1F9D8+1F3FB+200D+2642+FE0F man_in_lotus_position_light_skin_tone
  U+1F9D8+1F3FE+200D+2642+FE0F man_in_lotus_position_medium-dark_skin_tone
  U+1F9D8+1F3FC+200D+2642+FE0F man_in_lotus_position_medium-light_skin_tone
  U+1F9D8+1F3FD+200D+2642+FE0F man_in_lotus_position_medium_skin_tone
  U+1F468+200D+1F9BD man_in_manual_wheelchair U+1F468+200D+1F9BC man_in_motorized_wheelchair
  U+1F9D6+200D+2642+FE0F man_in_steamy_room
  U+1F9D6+1F3FF+200D+2642+FE0F man_in_steamy_room_dark_skin_tone
  U+1F9D6+1F3FB+200D+2642+FE0F man_in_steamy_room_light_skin_tone
  U+1F9D6+1F3FE+200D+2642+FE0F man_in_steamy_room_medium-dark_skin_tone
  U+1F9D6+1F3FC+200D+2642+FE0F man_in_steamy_room_medium-light_skin_tone
  U+1F9D6+1F3FD+200D+2642+FE0F man_in_steamy_room_medium_skin_tone U+1F574 man_in_suit_levitating
  U+1F574 man_in_business_suit_levitating U+1F574+1F3FF man_in_suit_levitating_dark_skin_tone
  U+1F574+1F3FB man_in_suit_levitating_light_skin_tone
  U+1F574+1F3FE man_in_suit_levitating_medium-dark_skin_tone
  U+1F574+1F3FC man_in_suit_levitating_medium-light_skin_tone
  U+1F574+1F3FD man_in_suit_levitating_medium_skin_tone U+1F935 man_in_tuxedo
  U+1F935+1F3FF man_in_tuxedo_dark_skin_tone U+1F935+1F3FB man_in_tuxedo_light_skin_tone
  U+1F935+1F3FE man_in_tuxedo_medium-dark_skin_tone
  U+1F935+1F3FC man_in_tuxedo_medium-light_skin_tone U+1F935+1F3FD man_in_tuxedo_medium_skin_tone
  U+1F468+200D+2696+FE0F man_judge U+1F468+1F3FF+200D+2696+FE0F man_judge_dark_skin_tone
  U+1F468+1F3FB+200D+2696+FE0F man_judge_light_skin_tone
  U+1F468+1F3FE+200D+2696+FE0F man_judge_medium-dark_skin_tone
  U+1F468+1F3FC+200D+2696+FE0F man_judge_medium-light_skin_tone
  U+1F468+1F3FD+200D+2696+FE0F man_judge_medium_skin_tone U+1F939+200D+2642+FE0F man_juggling
  U+1F939+1F3FF+200D+2642+FE0F man_juggling_dark_skin_tone
  U+1F939+1F3FB+200D+2642+FE0F man_juggling_light_skin_tone
  U+1F939+1F3FE+200D+2642+FE0F man_juggling_medium-dark_skin_tone
  U+1F939+1F3FC+200D+2642+FE0F man_juggling_medium-light_skin_tone
  U+1F939+1F3FD+200D+2642+FE0F man_juggling_medium_skin_tone
  U+1F3CB+FE0F+200D+2642+FE0F man_lifting_weights
  U+1F3CB+1F3FF+200D+2642+FE0F man_lifting_weights_dark_skin_tone
  U+1F3CB+1F3FB+200D+2642+FE0F man_lifting_weights_light_skin_tone
  U+1F3CB+1F3FE+200D+2642+FE0F man_lifting_weights_medium-dark_skin_tone
  U+1F3CB+1F3FC+200D+2642+FE0F man_lifting_weights_medium-light_skin_tone
  U+1F3CB+1F3FD+200D+2642+FE0F man_lifting_weights_medium_skin_tone
  U+1F468+1F3FB man_light_skin_tone U+1F9D9+200D+2642+FE0F man_mage
  U+1F9D9+1F3FF+200D+2642+FE0F man_mage_dark_skin_tone
  U+1F9D9+1F3FB+200D+2642+FE0F man_mage_light_skin_tone
  U+1F9D9+1F3FE+200D+2642+FE0F man_mage_medium-dark_skin_tone
  U+1F9D9+1F3FC+200D+2642+FE0F man_mage_medium-light_skin_tone
  U+1F9D9+1F3FD+200D+2642+FE0F man_mage_medium_skin_tone U+1F468+200D+1F527 man_mechanic
  U+1F468+1F3FF+200D+1F527 man_mechanic_dark_skin_tone
  U+1F468+1F3FB+200D+1F527 man_mechanic_light_skin_tone
  U+1F468+1F3FE+200D+1F527 man_mechanic_medium-dark_skin_tone
  U+1F468+1F3FC+200D+1F527 man_mechanic_medium-light_skin_tone
  U+1F468+1F3FD+200D+1F527 man_mechanic_medium_skin_tone U+1F468+1F3FE man_medium-dark_skin_tone
  U+1F468+1F3FC man_medium-light_skin_tone U+1F468+1F3FD man_medium_skin_tone
  U+1F6B5+200D+2642+FE0F man_mountain_biking
  U+1F6B5+1F3FF+200D+2642+FE0F man_mountain_biking_dark_skin_tone
  U+1F6B5+1F3FB+200D+2642+FE0F man_mountain_biking_light_skin_tone
  U+1F6B5+1F3FE+200D+2642+FE0F man_mountain_biking_medium-dark_skin_tone
  U+1F6B5+1F3FC+200D+2642+FE0F man_mountain_biking_medium-light_skin_tone
  U+1F6B5+1F3FD+200D+2642+FE0F man_mountain_biking_medium_skin_tone
  U+1F468+200D+1F4BC man_office_worker U+1F468+1F3FF+200D+1F4BC man_office_worker_dark_skin_tone
  U+1F468+1F3FB+200D+1F4BC man_office_worker_light_skin_tone
  U+1F468+1F3FE+200D+1F4BC man_office_worker_medium-dark_skin_tone
  U+1F468+1F3FC+200D+1F4BC man_office_worker_medium-light_skin_tone
  U+1F468+1F3FD+200D+1F4BC man_office_worker_medium_skin_tone U+1F468+200D+2708+FE0F man_pilot
  U+1F468+1F3FF+200D+2708+FE0F man_pilot_dark_skin_tone
  U+1F468+1F3FB+200D+2708+FE0F man_pilot_light_skin_tone
  U+1F468+1F3FE+200D+2708+FE0F man_pilot_medium-dark_skin_tone
  U+1F468+1F3FC+200D+2708+FE0F man_pilot_medium-light_skin_tone
  U+1F468+1F3FD+200D+2708+FE0F man_pilot_medium_skin_tone
  U+1F93E+200D+2642+FE0F man_playing_handball
  U+1F93E+1F3FF+200D+2642+FE0F man_playing_handball_dark_skin_tone
  U+1F93E+1F3FB+200D+2642+FE0F man_playing_handball_light_skin_tone
  U+1F93E+1F3FE+200D+2642+FE0F man_playing_handball_medium-dark_skin_tone
  U+1F93E+1F3FC+200D+2642+FE0F man_playing_handball_medium-light_skin_tone
  U+1F93E+1F3FD+200D+2642+FE0F man_playing_handball_medium_skin_tone
  U+1F93D+200D+2642+FE0F man_playing_water_polo
  U+1F93D+1F3FF+200D+2642+FE0F man_playing_water_polo_dark_skin_tone
  U+1F93D+1F3FB+200D+2642+FE0F man_playing_water_polo_light_skin_tone
  U+1F93D+1F3FE+200D+2642+FE0F man_playing_water_polo_medium-dark_skin_tone
  U+1F93D+1F3FC+200D+2642+FE0F man_playing_water_polo_medium-light_skin_tone
  U+1F93D+1F3FD+200D+2642+FE0F man_playing_water_polo_medium_skin_tone
  U+1F46E+200D+2642+FE0F man_police_officer
  U+1F46E+1F3FF+200D+2642+FE0F man_police_officer_dark_skin_tone
  U+1F46E+1F3FB+200D+2642+FE0F man_police_officer_light_skin_tone
  U+1F46E+1F3FE+200D+2642+FE0F man_police_officer_medium-dark_skin_tone
  U+1F46E+1F3FC+200D+2642+FE0F man_police_officer_medium-light_skin_tone
  U+1F46E+1F3FD+200D+2642+FE0F man_police_officer_medium_skin_tone
  U+1F64E+200D+2642+FE0F man_pouting U+1F64E+1F3FF+200D+2642+FE0F man_pouting_dark_skin_tone
  U+1F64E+1F3FB+200D+2642+FE0F man_pouting_light_skin_tone
  U+1F64E+1F3FE+200D+2642+FE0F man_pouting_medium-dark_skin_tone
  U+1F64E+1F3FC+200D+2642+FE0F man_pouting_medium-light_skin_tone
  U+1F64E+1F3FD+200D+2642+FE0F man_pouting_medium_skin_tone
  U+1F64B+200D+2642+FE0F man_raising_hand
  U+1F64B+1F3FF+200D+2642+FE0F man_raising_hand_dark_skin_tone
  U+1F64B+1F3FB+200D+2642+FE0F man_raising_hand_light_skin_tone
  U+1F64B+1F3FE+200D+2642+FE0F man_raising_hand_medium-dark_skin_tone
  U+1F64B+1F3FC+200D+2642+FE0F man_raising_hand_medium-light_skin_tone
  U+1F64B+1F3FD+200D+2642+FE0F man_raising_hand_medium_skin_tone
  U+1F6A3+200D+2642+FE0F man_rowing_boat
  U+1F6A3+1F3FF+200D+2642+FE0F man_rowing_boat_dark_skin_tone
  U+1F6A3+1F3FB+200D+2642+FE0F man_rowing_boat_light_skin_tone
  U+1F6A3+1F3FE+200D+2642+FE0F man_rowing_boat_medium-dark_skin_tone
  U+1F6A3+1F3FC+200D+2642+FE0F man_rowing_boat_medium-light_skin_tone
  U+1F6A3+1F3FD+200D+2642+FE0F man_rowing_boat_medium_skin_tone U+1F3C3+200D+2642+FE0F man_running
  U+1F3C3+1F3FF+200D+2642+FE0F man_running_dark_skin_tone
  U+1F3C3+1F3FB+200D+2642+FE0F man_running_light_skin_tone
  U+1F3C3+1F3FE+200D+2642+FE0F man_running_medium-dark_skin_tone
  U+1F3C3+1F3FC+200D+2642+FE0F man_running_medium-light_skin_tone
  U+1F3C3+1F3FD+200D+2642+FE0F man_running_medium_skin_tone U+1F468+200D+1F52C man_scientist
  U+1F468+1F3FF+200D+1F52C man_scientist_dark_skin_tone
  U+1F468+1F3FB+200D+1F52C man_scientist_light_skin_tone
  U+1F468+1F3FE+200D+1F52C man_scientist_medium-dark_skin_tone
  U+1F468+1F3FC+200D+1F52C man_scientist_medium-light_skin_tone
  U+1F468+1F3FD+200D+1F52C man_scientist_medium_skin_tone U+1F937+200D+2642+FE0F man_shrugging
  U+1F937+1F3FF+200D+2642+FE0F man_shrugging_dark_skin_tone
  U+1F937+1F3FB+200D+2642+FE0F man_shrugging_light_skin_tone
  U+1F937+1F3FE+200D+2642+FE0F man_shrugging_medium-dark_skin_tone
  U+1F937+1F3FC+200D+2642+FE0F man_shrugging_medium-light_skin_tone
  U+1F937+1F3FD+200D+2642+FE0F man_shrugging_medium_skin_tone U+1F468+200D+1F3A4 man_singer
  U+1F468+1F3FF+200D+1F3A4 man_singer_dark_skin_tone
  U+1F468+1F3FB+200D+1F3A4 man_singer_light_skin_tone
  U+1F468+1F3FE+200D+1F3A4 man_singer_medium-dark_skin_tone
  U+1F468+1F3FC+200D+1F3A4 man_singer_medium-light_skin_tone
  U+1F468+1F3FD+200D+1F3A4 man_singer_medium_skin_tone U+1F468+200D+1F393 man_student
  U+1F468+1F3FF+200D+1F393 man_student_dark_skin_tone
  U+1F468+1F3FB+200D+1F393 man_student_light_skin_tone
  U+1F468+1F3FE+200D+1F393 man_student_medium-dark_skin_tone
  U+1F468+1F3FC+200D+1F393 man_student_medium-light_skin_tone
  U+1F468+1F3FD+200D+1F393 man_student_medium_skin_tone U+1F3C4+200D+2642+FE0F man_surfing
  U+1F3C4+1F3FF+200D+2642+FE0F man_surfing_dark_skin_tone
  U+1F3C4+1F3FB+200D+2642+FE0F man_surfing_light_skin_tone
  U+1F3C4+1F3FE+200D+2642+FE0F man_surfing_medium-dark_skin_tone
  U+1F3C4+1F3FC+200D+2642+FE0F man_surfing_medium-light_skin_tone
  U+1F3C4+1F3FD+200D+2642+FE0F man_surfing_medium_skin_tone U+1F3CA+200D+2642+FE0F man_swimming
  U+1F3CA+1F3FF+200D+2642+FE0F man_swimming_dark_skin_tone
  U+1F3CA+1F3FB+200D+2642+FE0F man_swimming_light_skin_tone
  U+1F3CA+1F3FE+200D+2642+FE0F man_swimming_medium-dark_skin_tone
  U+1F3CA+1F3FC+200D+2642+FE0F man_swimming_medium-light_skin_tone
  U+1F3CA+1F3FD+200D+2642+FE0F man_swimming_medium_skin_tone U+1F468+200D+1F3EB man_teacher
  U+1F468+1F3FF+200D+1F3EB man_teacher_dark_skin_tone
  U+1F468+1F3FB+200D+1F3EB man_teacher_light_skin_tone
  U+1F468+1F3FE+200D+1F3EB man_teacher_medium-dark_skin_tone
  U+1F468+1F3FC+200D+1F3EB man_teacher_medium-light_skin_tone
  U+1F468+1F3FD+200D+1F3EB man_teacher_medium_skin_tone U+1F468+200D+1F4BB man_technologist
  U+1F468+1F3FF+200D+1F4BB man_technologist_dark_skin_tone
  U+1F468+1F3FB+200D+1F4BB man_technologist_light_skin_tone
  U+1F468+1F3FE+200D+1F4BB man_technologist_medium-dark_skin_tone
  U+1F468+1F3FC+200D+1F4BB man_technologist_medium-light_skin_tone
  U+1F468+1F3FD+200D+1F4BB man_technologist_medium_skin_tone
  U+1F481+200D+2642+FE0F man_tipping_hand
  U+1F481+1F3FF+200D+2642+FE0F man_tipping_hand_dark_skin_tone
  U+1F481+1F3FB+200D+2642+FE0F man_tipping_hand_light_skin_tone
  U+1F481+1F3FE+200D+2642+FE0F man_tipping_hand_medium-dark_skin_tone
  U+1F481+1F3FC+200D+2642+FE0F man_tipping_hand_medium-light_skin_tone
  U+1F481+1F3FD+200D+2642+FE0F man_tipping_hand_medium_skin_tone
  U+1F9DB+200D+2642+FE0F man_vampire U+1F9DB+1F3FF+200D+2642+FE0F man_vampire_dark_skin_tone
  U+1F9DB+1F3FB+200D+2642+FE0F man_vampire_light_skin_tone
  U+1F9DB+1F3FE+200D+2642+FE0F man_vampire_medium-dark_skin_tone
  U+1F9DB+1F3FC+200D+2642+FE0F man_vampire_medium-light_skin_tone
  U+1F9DB+1F3FD+200D+2642+FE0F man_vampire_medium_skin_tone U+1F6B6+200D+2642+FE0F man_walking
  U+1F6B6+1F3FF+200D+2642+FE0F man_walking_dark_skin_tone
  U+1F6B6+1F3FB+200D+2642+FE0F man_walking_light_skin_tone
  U+1F6B6+1F3FE+200D+2642+FE0F man_walking_medium-dark_skin_tone
  U+1F6B6+1F3FC+200D+2642+FE0F man_walking_medium-light_skin_tone
  U+1F6B6+1F3FD+200D+2642+FE0F man_walking_medium_skin_tone
  U+1F473+200D+2642+FE0F man_wearing_turban
  U+1F473+1F3FF+200D+2642+FE0F man_wearing_turban_dark_skin_tone
  U+1F473+1F3FB+200D+2642+FE0F man_wearing_turban_light_skin_tone
  U+1F473+1F3FE+200D+2642+FE0F man_wearing_turban_medium-dark_skin_tone
  U+1F473+1F3FC+200D+2642+FE0F man_wearing_turban_medium-light_skin_tone
  U+1F473+1F3FD+200D+2642+FE0F man_wearing_turban_medium_skin_tone
  U+1F468+200D+1F9AF man_with_probing_cane U+1F472 man_with_chinese_cap man_with_gua_pi_mao
  U+1F472+1F3FF man_with_chinese_cap_dark_skin_tone
  U+1F472+1F3FB man_with_chinese_cap_light_skin_tone
  U+1F472+1F3FE man_with_chinese_cap_medium-dark_skin_tone
  U+1F472+1F3FC man_with_chinese_cap_medium-light_skin_tone
  U+1F472+1F3FD man_with_chinese_cap_medium_skin_tone U+1F9DF+200D+2642+FE0F man_zombie
  U+1F96D mango U+1F570 mantelpiece_clock U+1F9BD manual_wheelchair U+1F45E man’s_shoe mans_shoe
  U+1F45E shoe U+1F341 maple_leaf U+1F94B martial_arts_uniform U+1F9C9 mate U+1F356 meat_on_bone
  U+1F9BE mechanical_arm U+1F9BF mechanical_leg U+2695 medical_symbol U+1F4E3 megaphone mega
  U+1F348 melon U+1F4DD memo pencil U+1F46F+200D+2642+FE0F men_with_bunny_ears
  U+1F93C+200D+2642+FE0F men_wrestling U+1F54E menorah menorah_with_nine_branches
  U+1F6B9 men’s_room mens U+1F9DC+200D+2640+FE0F mermaid
  U+1F9DC+1F3FF+200D+2640+FE0F mermaid_dark_skin_tone
  U+1F9DC+1F3FB+200D+2640+FE0F mermaid_light_skin_tone
  U+1F9DC+1F3FE+200D+2640+FE0F mermaid_medium-dark_skin_tone
  U+1F9DC+1F3FC+200D+2640+FE0F mermaid_medium-light_skin_tone
  U+1F9DC+1F3FD+200D+2640+FE0F mermaid_medium_skin_tone U+1F9DC+200D+2642+FE0F merman
  U+1F9DC+1F3FF+200D+2642+FE0F merman_dark_skin_tone
  U+1F9DC+1F3FB+200D+2642+FE0F merman_light_skin_tone
  U+1F9DC+1F3FE+200D+2642+FE0F merman_medium-dark_skin_tone
  U+1F9DC+1F3FC+200D+2642+FE0F merman_medium-light_skin_tone
  U+1F9DC+1F3FD+200D+2642+FE0F merman_medium_skin_tone U+1F9DC merperson
  U+1F9DC+1F3FF merperson_dark_skin_tone U+1F9DC+1F3FB merperson_light_skin_tone
  U+1F9DC+1F3FE merperson_medium-dark_skin_tone U+1F9DC+1F3FC merperson_medium-light_skin_tone
  U+1F9DC+1F3FD merperson_medium_skin_tone U+1F687 metro U+1F9A0 microbe U+1F3A4 microphone
  U+1F52C microscope U+1F595 middle_finger reversed_hand_with_middle_finger_extended
  U+1F595+1F3FF middle_finger_dark_skin_tone U+1F595+1F3FB middle_finger_light_skin_tone
  U+1F595+1F3FE middle_finger_medium-dark_skin_tone
  U+1F595+1F3FC middle_finger_medium-light_skin_tone U+1F595+1F3FD middle_finger_medium_skin_tone
  U+1F396 military_medal U+1F30C milky_way U+1F690 minibus U+1F5FF moai moyai U+1F4F1 mobile_phone
  U+1F4F1 iphone U+1F4F4 mobile_phone_off U+1F4F2 mobile_phone_with_arrow calling
  U+1F911 money-mouth_face money__mouth_face U+1F4B0 money_bag moneybag U+1F4B8 money_with_wings
  U+1F412 monkey U+1F435 monkey_face U+1F69D monorail U+1F96E moon_cake
  U+1F391 moon_viewing_ceremony rice_scene U+1F54C mosque U+1F99F mosquito U+1F6E5 motor_boat
  U+1F6F5 motor_scooter U+1F3CD motorcycle racing_motorcycle U+1F9BC motorized_wheelchair
  U+1F6E3 motorway U+1F5FB mount_fuji U+26F0 mountain U+1F6A0 mountain_cableway
  U+1F69E mountain_railway U+1F42D mouse mouse_face U+1F444 mouth lips U+1F3A5 movie_camera
  U+1F344 mushroom U+1F3B9 musical_keyboard U+1F3B5 musical_note U+1F3B6 musical_notes notes
  U+1F3BC musical_score U+1F507 muted_speaker mute U+1F485 nail_polish nail_care
  U+1F485+1F3FF nail_polish_dark_skin_tone U+1F485+1F3FB nail_polish_light_skin_tone
  U+1F485+1F3FE nail_polish_medium-dark_skin_tone U+1F485+1F3FC nail_polish_medium-light_skin_tone
  U+1F485+1F3FD nail_polish_medium_skin_tone U+1F4DB name_badge U+1F3DE national_park
  U+1F922 nauseated_face U+1F9FF nazar_amulet U+1F454 necktie U+1F913 nerd_face
  U+1F610 neutral_face U+1F311 new_moon U+1F31A new_moon_face new_moon_with_face U+1F4F0 newspaper
  U+23ED next_track_button black_right__pointing_double_triangle_with_vertical_bar
  U+1F303 night_with_stars U+1F564 nine-thirty clock930 U+1F558 nine_o’clock clock9
  U+1F6B3 no_bicycles U+26D4 no_entry U+1F6AF no_littering do_not_litter U+1F4F5 no_mobile_phones
  U+1F51E no_one_under_eighteen underage U+1F6B7 no_pedestrians U+1F6AD no_smoking
  U+1F6B1 non-potable_water non__potable_water U+1F443 nose U+1F443+1F3FF nose_dark_skin_tone
  U+1F443+1F3FB nose_light_skin_tone U+1F443+1F3FE nose_medium-dark_skin_tone
  U+1F443+1F3FC nose_medium-light_skin_tone U+1F443+1F3FD nose_medium_skin_tone U+1F4D3 notebook
  U+1F4D4 notebook_with_decorative_cover U+1F529 nut_and_bolt U+1F419 octopus U+1F362 oden
  U+1F3E2 office_building office U+1F479 ogre japanese_ogre U+1F6E2 oil_drum U+1F5DD old_key
  U+1F474 old_man older_man U+1F474+1F3FF old_man_dark_skin_tone
  U+1F474+1F3FB old_man_light_skin_tone U+1F474+1F3FE old_man_medium-dark_skin_tone
  U+1F474+1F3FC old_man_medium-light_skin_tone U+1F474+1F3FD old_man_medium_skin_tone
  U+1F475 old_woman older_woman U+1F475+1F3FF old_woman_dark_skin_tone
  U+1F475+1F3FB old_woman_light_skin_tone U+1F475+1F3FE old_woman_medium-dark_skin_tone
  U+1F475+1F3FC old_woman_medium-light_skin_tone U+1F475+1F3FD old_woman_medium_skin_tone
  U+1F9D3 older_adult U+1F9D3+1F3FF older_adult_dark_skin_tone
  U+1F9D3+1F3FB older_adult_light_skin_tone U+1F9D3+1F3FE older_adult_medium-dark_skin_tone
  U+1F9D3+1F3FC older_adult_medium-light_skin_tone U+1F9D3+1F3FD older_adult_medium_skin_tone
  U+1F549 om om_symbol U+1F698 oncoming_automobile U+1F68D oncoming_bus U+1F44A oncoming_fist
  U+1F44A facepunch punch U+1F44A+1F3FF oncoming_fist_dark_skin_tone
  U+1F44A+1F3FB oncoming_fist_light_skin_tone U+1F44A+1F3FE oncoming_fist_medium-dark_skin_tone
  U+1F44A+1F3FC oncoming_fist_medium-light_skin_tone U+1F44A+1F3FD oncoming_fist_medium_skin_tone
  U+1F694 oncoming_police_car U+1F696 oncoming_taxi U+1FA71 one-piece_swimsuit U+1F55C one-thirty
  U+1F55C clock130 U+1F550 one_o’clock clock1 U+1F9C5 onion U+1F4D6 open_book book
  U+1F4C2 open_file_folder U+1F450 open_hands U+1F450+1F3FF open_hands_dark_skin_tone
  U+1F450+1F3FB open_hands_light_skin_tone U+1F450+1F3FE open_hands_medium-dark_skin_tone
  U+1F450+1F3FC open_hands_medium-light_skin_tone U+1F450+1F3FD open_hands_medium_skin_tone
  U+1F4ED open_mailbox_with_lowered_flag mailbox_with_no_mail
  U+1F4EC open_mailbox_with_raised_flag mailbox_with_mail U+1F4BF optical_disk cd
  U+1F4D9 orange_book U+1F7E0 orange_circle U+1F9E1 orange_heart U+1F7E7 orange_square
  U+1F9A7 orangutan U+2626 orthodox_cross U+1F9A6 otter U+1F4E4 outbox_tray U+1F989 owl U+1F402 ox
  U+1F9AA oyster U+1F4E6 package U+1F4C4 page_facing_up U+1F4C3 page_with_curl U+1F4DF pager
  U+1F58C paintbrush lower_left_paintbrush U+1F334 palm_tree U+1F932 palms_up_together
  U+1F932+1F3FF palms_up_together_dark_skin_tone U+1F932+1F3FB palms_up_together_light_skin_tone
  U+1F932+1F3FE palms_up_together_medium-dark_skin_tone
  U+1F932+1F3FC palms_up_together_medium-light_skin_tone
  U+1F932+1F3FD palms_up_together_medium_skin_tone U+1F95E pancakes U+1F43C panda_face
  U+1F4CE paperclip U+1F99C parrot U+303D part_alternation_mark U+1F389 party_popper tada
  U+1F973 partying_face U+1F6F3 passenger_ship U+1F6C2 passport_control U+23F8 pause_button
  U+23F8 double_vertical_bar U+1F43E paw_prints feet U+262E peace_symbol U+1F351 peach
  U+1F99A peacock U+1F95C peanuts U+1F350 pear U+1F58A pen lower_left_ballpoint_pen
  U+1F427 penguin U+1F614 pensive_face pensive U+1F9D1+200D+1F91D+200D+1F9D1 people_holding_hands
  U+1F46F people_with_bunny_ears dancers U+1F93C people_wrestling U+1F3AD performing_arts
  U+1F623 persevering_face persevere U+1F6B4 person_biking bicyclist
  U+1F6B4+1F3FF person_biking_dark_skin_tone U+1F6B4+1F3FB person_biking_light_skin_tone
  U+1F6B4+1F3FE person_biking_medium-dark_skin_tone
  U+1F6B4+1F3FC person_biking_medium-light_skin_tone U+1F6B4+1F3FD person_biking_medium_skin_tone
  U+26F9 person_bouncing_ball person_with_ball U+26F9+1F3FF person_bouncing_ball_dark_skin_tone
  U+26F9+1F3FB person_bouncing_ball_light_skin_tone
  U+26F9+1F3FE person_bouncing_ball_medium-dark_skin_tone
  U+26F9+1F3FC person_bouncing_ball_medium-light_skin_tone
  U+26F9+1F3FD person_bouncing_ball_medium_skin_tone U+1F647 person_bowing bow
  U+1F647+1F3FF person_bowing_dark_skin_tone U+1F647+1F3FB person_bowing_light_skin_tone
  U+1F647+1F3FE person_bowing_medium-dark_skin_tone
  U+1F647+1F3FC person_bowing_medium-light_skin_tone U+1F647+1F3FD person_bowing_medium_skin_tone
  U+1F938 person_cartwheeling U+1F938+1F3FF person_cartwheeling_dark_skin_tone
  U+1F938+1F3FB person_cartwheeling_light_skin_tone
  U+1F938+1F3FE person_cartwheeling_medium-dark_skin_tone
  U+1F938+1F3FC person_cartwheeling_medium-light_skin_tone
  U+1F938+1F3FD person_cartwheeling_medium_skin_tone U+1F9D7 person_climbing
  U+1F9D7+1F3FF person_climbing_dark_skin_tone U+1F9D7+1F3FB person_climbing_light_skin_tone
  U+1F9D7+1F3FE person_climbing_medium-dark_skin_tone
  U+1F9D7+1F3FC person_climbing_medium-light_skin_tone
  U+1F9D7+1F3FD person_climbing_medium_skin_tone U+1F926 person_facepalming
  U+1F926+1F3FF person_facepalming_dark_skin_tone U+1F926+1F3FB person_facepalming_light_skin_tone
  U+1F926+1F3FE person_facepalming_medium-dark_skin_tone
  U+1F926+1F3FC person_facepalming_medium-light_skin_tone
  U+1F926+1F3FD person_facepalming_medium_skin_tone U+1F93A person_fencing U+1F64D person_frowning
  U+1F64D+1F3FF person_frowning_dark_skin_tone U+1F64D+1F3FB person_frowning_light_skin_tone
  U+1F64D+1F3FE person_frowning_medium-dark_skin_tone
  U+1F64D+1F3FC person_frowning_medium-light_skin_tone
  U+1F64D+1F3FD person_frowning_medium_skin_tone U+1F645 person_gesturing_no no_good
  U+1F645+1F3FF person_gesturing_no_dark_skin_tone
  U+1F645+1F3FB person_gesturing_no_light_skin_tone
  U+1F645+1F3FE person_gesturing_no_medium-dark_skin_tone
  U+1F645+1F3FC person_gesturing_no_medium-light_skin_tone
  U+1F645+1F3FD person_gesturing_no_medium_skin_tone U+1F646 person_gesturing_ok ok_woman
  U+1F646+1F3FF person_gesturing_ok_dark_skin_tone
  U+1F646+1F3FB person_gesturing_ok_light_skin_tone
  U+1F646+1F3FE person_gesturing_ok_medium-dark_skin_tone
  U+1F646+1F3FC person_gesturing_ok_medium-light_skin_tone
  U+1F646+1F3FD person_gesturing_ok_medium_skin_tone U+1F487 person_getting_haircut haircut
  U+1F487+1F3FF person_getting_haircut_dark_skin_tone
  U+1F487+1F3FB person_getting_haircut_light_skin_tone
  U+1F487+1F3FE person_getting_haircut_medium-dark_skin_tone
  U+1F487+1F3FC person_getting_haircut_medium-light_skin_tone
  U+1F487+1F3FD person_getting_haircut_medium_skin_tone U+1F486 person_getting_massage massage
  U+1F486+1F3FF person_getting_massage_dark_skin_tone
  U+1F486+1F3FB person_getting_massage_light_skin_tone
  U+1F486+1F3FE person_getting_massage_medium-dark_skin_tone
  U+1F486+1F3FC person_getting_massage_medium-light_skin_tone
  U+1F486+1F3FD person_getting_massage_medium_skin_tone U+1F3CC person_golfing golfer
  U+1F3CC+1F3FF person_golfing_dark_skin_tone U+1F3CC+1F3FB person_golfing_light_skin_tone
  U+1F3CC+1F3FE person_golfing_medium-dark_skin_tone
  U+1F3CC+1F3FC person_golfing_medium-light_skin_tone
  U+1F3CC+1F3FD person_golfing_medium_skin_tone U+1F6CC person_in_bed sleeping_accommodation
  U+1F6CC+1F3FF person_in_bed_dark_skin_tone U+1F6CC+1F3FB person_in_bed_light_skin_tone
  U+1F6CC+1F3FE person_in_bed_medium-dark_skin_tone
  U+1F6CC+1F3FC person_in_bed_medium-light_skin_tone U+1F6CC+1F3FD person_in_bed_medium_skin_tone
  U+1F9D8 person_in_lotus_position U+1F9D8+1F3FF person_in_lotus_position_dark_skin_tone
  U+1F9D8+1F3FB person_in_lotus_position_light_skin_tone
  U+1F9D8+1F3FE person_in_lotus_position_medium-dark_skin_tone
  U+1F9D8+1F3FC person_in_lotus_position_medium-light_skin_tone
  U+1F9D8+1F3FD person_in_lotus_position_medium_skin_tone U+1F9D6 person_in_steamy_room
  U+1F9D6+1F3FF person_in_steamy_room_dark_skin_tone
  U+1F9D6+1F3FB person_in_steamy_room_light_skin_tone
  U+1F9D6+1F3FE person_in_steamy_room_medium-dark_skin_tone
  U+1F9D6+1F3FC person_in_steamy_room_medium-light_skin_tone
  U+1F9D6+1F3FD person_in_steamy_room_medium_skin_tone U+1F939 person_juggling
  U+1F939+1F3FF person_juggling_dark_skin_tone U+1F939+1F3FB person_juggling_light_skin_tone
  U+1F939+1F3FE person_juggling_medium-dark_skin_tone
  U+1F939+1F3FC person_juggling_medium-light_skin_tone
  U+1F939+1F3FD person_juggling_medium_skin_tone U+1F9CE person_kneeling
  U+1F3CB person_lifting_weights weight_lifter U+1F3CB+1F3FF person_lifting_weights_dark_skin_tone
  U+1F3CB+1F3FB person_lifting_weights_light_skin_tone
  U+1F3CB+1F3FE person_lifting_weights_medium-dark_skin_tone
  U+1F3CB+1F3FC person_lifting_weights_medium-light_skin_tone
  U+1F3CB+1F3FD person_lifting_weights_medium_skin_tone U+1F6B5 person_mountain_biking
  U+1F6B5 mountain_bicyclist U+1F6B5+1F3FF person_mountain_biking_dark_skin_tone
  U+1F6B5+1F3FB person_mountain_biking_light_skin_tone
  U+1F6B5+1F3FE person_mountain_biking_medium-dark_skin_tone
  U+1F6B5+1F3FC person_mountain_biking_medium-light_skin_tone
  U+1F6B5+1F3FD person_mountain_biking_medium_skin_tone U+1F93E person_playing_handball
  U+1F93E+1F3FF person_playing_handball_dark_skin_tone
  U+1F93E+1F3FB person_playing_handball_light_skin_tone
  U+1F93E+1F3FE person_playing_handball_medium-dark_skin_tone
  U+1F93E+1F3FC person_playing_handball_medium-light_skin_tone
  U+1F93E+1F3FD person_playing_handball_medium_skin_tone U+1F93D person_playing_water_polo
  U+1F93D+1F3FF person_playing_water_polo_dark_skin_tone
  U+1F93D+1F3FB person_playing_water_polo_light_skin_tone
  U+1F93D+1F3FE person_playing_water_polo_medium-dark_skin_tone
  U+1F93D+1F3FC person_playing_water_polo_medium-light_skin_tone
  U+1F93D+1F3FD person_playing_water_polo_medium_skin_tone U+1F64E person_pouting
  U+1F64E person_with_pouting_face U+1F64E+1F3FF person_pouting_dark_skin_tone
  U+1F64E+1F3FB person_pouting_light_skin_tone U+1F64E+1F3FE person_pouting_medium-dark_skin_tone
  U+1F64E+1F3FC person_pouting_medium-light_skin_tone
  U+1F64E+1F3FD person_pouting_medium_skin_tone U+1F64B person_raising_hand raising_hand
  U+1F64B+1F3FF person_raising_hand_dark_skin_tone
  U+1F64B+1F3FB person_raising_hand_light_skin_tone
  U+1F64B+1F3FE person_raising_hand_medium-dark_skin_tone
  U+1F64B+1F3FC person_raising_hand_medium-light_skin_tone
  U+1F64B+1F3FD person_raising_hand_medium_skin_tone U+1F6A3 person_rowing_boat rowboat
  U+1F6A3+1F3FF person_rowing_boat_dark_skin_tone U+1F6A3+1F3FB person_rowing_boat_light_skin_tone
  U+1F6A3+1F3FE person_rowing_boat_medium-dark_skin_tone
  U+1F6A3+1F3FC person_rowing_boat_medium-light_skin_tone
  U+1F6A3+1F3FD person_rowing_boat_medium_skin_tone U+1F3C3 person_running runner running
  U+1F3C3+1F3FF person_running_dark_skin_tone U+1F3C3+1F3FB person_running_light_skin_tone
  U+1F3C3+1F3FE person_running_medium-dark_skin_tone
  U+1F3C3+1F3FC person_running_medium-light_skin_tone
  U+1F3C3+1F3FD person_running_medium_skin_tone U+1F937 person_shrugging
  U+1F937+1F3FF person_shrugging_dark_skin_tone U+1F937+1F3FB person_shrugging_light_skin_tone
  U+1F937+1F3FE person_shrugging_medium-dark_skin_tone
  U+1F937+1F3FC person_shrugging_medium-light_skin_tone
  U+1F937+1F3FD person_shrugging_medium_skin_tone U+1F9CD person_standing U+1F3C4 person_surfing
  U+1F3C4 surfer U+1F3C4+1F3FF person_surfing_dark_skin_tone
  U+1F3C4+1F3FB person_surfing_light_skin_tone U+1F3C4+1F3FE person_surfing_medium-dark_skin_tone
  U+1F3C4+1F3FC person_surfing_medium-light_skin_tone
  U+1F3C4+1F3FD person_surfing_medium_skin_tone U+1F3CA person_swimming swimmer
  U+1F3CA+1F3FF person_swimming_dark_skin_tone U+1F3CA+1F3FB person_swimming_light_skin_tone
  U+1F3CA+1F3FE person_swimming_medium-dark_skin_tone
  U+1F3CA+1F3FC person_swimming_medium-light_skin_tone
  U+1F3CA+1F3FD person_swimming_medium_skin_tone U+1F6C0 person_taking_bath bath
  U+1F6C0+1F3FF person_taking_bath_dark_skin_tone U+1F6C0+1F3FB person_taking_bath_light_skin_tone
  U+1F6C0+1F3FE person_taking_bath_medium-dark_skin_tone
  U+1F6C0+1F3FC person_taking_bath_medium-light_skin_tone
  U+1F6C0+1F3FD person_taking_bath_medium_skin_tone U+1F481 person_tipping_hand
  U+1F481 information_desk_person U+1F481+1F3FF person_tipping_hand_dark_skin_tone
  U+1F481+1F3FB person_tipping_hand_light_skin_tone
  U+1F481+1F3FE person_tipping_hand_medium-dark_skin_tone
  U+1F481+1F3FC person_tipping_hand_medium-light_skin_tone
  U+1F481+1F3FD person_tipping_hand_medium_skin_tone U+1F6B6 person_walking walking
  U+1F6B6+1F3FF person_walking_dark_skin_tone U+1F6B6+1F3FB person_walking_light_skin_tone
  U+1F6B6+1F3FE person_walking_medium-dark_skin_tone
  U+1F6B6+1F3FC person_walking_medium-light_skin_tone
  U+1F6B6+1F3FD person_walking_medium_skin_tone U+1F473 person_wearing_turban man_with_turban
  U+1F473+1F3FF person_wearing_turban_dark_skin_tone
  U+1F473+1F3FB person_wearing_turban_light_skin_tone
  U+1F473+1F3FE person_wearing_turban_medium-dark_skin_tone
  U+1F473+1F3FC person_wearing_turban_medium-light_skin_tone
  U+1F473+1F3FD person_wearing_turban_medium_skin_tone U+1F9EB petri_dish U+26CF pick U+1F967 pie
  U+1F437 pig pig_face U+1F43D pig_nose U+1F4A9 pile_of_poo hankey poop shit U+1F48A pill
  U+1F90F pinching_hand U+1F38D pine_decoration bamboo U+1F34D pineapple U+1F3D3 ping_pong
  U+1F3D3 table_tennis_paddle_and_ball U+1F3F4+200D+2620+FE0F pirate_flag U+1F52B pistol gun
  U+1F355 pizza U+1F6D0 place_of_worship U+25B6 play_button arrow_forward
  U+23EF play_or_pause_button black_right__pointing_triangle_with_double_vertical_bar
  U+1F97A pleading_face U+1F693 police_car U+1F6A8 police_car_light rotating_light
  U+1F46E police_officer cop U+1F46E+1F3FF police_officer_dark_skin_tone
  U+1F46E+1F3FB police_officer_light_skin_tone U+1F46E+1F3FE police_officer_medium-dark_skin_tone
  U+1F46E+1F3FC police_officer_medium-light_skin_tone
  U+1F46E+1F3FD police_officer_medium_skin_tone U+1F429 poodle U+1F3B1 pool_8_ball 8ball
  U+1F37F popcorn U+1F4EF postal_horn U+1F4EE postbox U+1F372 pot_of_food stew
  U+1F6B0 potable_water U+1F954 potato U+1F357 poultry_leg U+1F4B7 pound_banknote pound
  U+1F63E pouting_cat_face pouting_cat U+1F621 pouting_face rage U+1F4FF prayer_beads
  U+1F930 pregnant_woman U+1F930+1F3FF pregnant_woman_dark_skin_tone
  U+1F930+1F3FB pregnant_woman_light_skin_tone U+1F930+1F3FE pregnant_woman_medium-dark_skin_tone
  U+1F930+1F3FC pregnant_woman_medium-light_skin_tone
  U+1F930+1F3FD pregnant_woman_medium_skin_tone U+1F968 pretzel U+1F9AF probing_cane
  U+1F934 prince U+1F934+1F3FF prince_dark_skin_tone U+1F934+1F3FB prince_light_skin_tone
  U+1F934+1F3FE prince_medium-dark_skin_tone U+1F934+1F3FC prince_medium-light_skin_tone
  U+1F934+1F3FD prince_medium_skin_tone U+1F478 princess U+1F478+1F3FF princess_dark_skin_tone
  U+1F478+1F3FB princess_light_skin_tone U+1F478+1F3FE princess_medium-dark_skin_tone
  U+1F478+1F3FC princess_medium-light_skin_tone U+1F478+1F3FD princess_medium_skin_tone
  U+1F5A8 printer U+1F6AB prohibited no_entry_sign U+1F7E3 purple_circle U+1F49C purple_heart
  U+1F7EA purple_square U+1F45B purse U+1F4CC pushpin U+2753 question_mark question U+1F430 rabbit
  U+1F430 rabbit_face U+1F99D raccoon U+1F3CE racing_car U+1F4FB radio U+1F518 radio_button
  U+2622 radioactive radioactive_sign U+1F683 railway_car U+1F6E4 railway_track U+1F308 rainbow
  U+1F3F3+FE0F+200D+1F308 rainbow_flag U+1F91A raised_back_of_hand
  U+1F91A+1F3FF raised_back_of_hand_dark_skin_tone
  U+1F91A+1F3FB raised_back_of_hand_light_skin_tone
  U+1F91A+1F3FE raised_back_of_hand_medium-dark_skin_tone
  U+1F91A+1F3FC raised_back_of_hand_medium-light_skin_tone
  U+1F91A+1F3FD raised_back_of_hand_medium_skin_tone U+270A raised_fist fist
  U+270A+1F3FF raised_fist_dark_skin_tone U+270A+1F3FB raised_fist_light_skin_tone
  U+270A+1F3FE raised_fist_medium-dark_skin_tone U+270A+1F3FC raised_fist_medium-light_skin_tone
  U+270A+1F3FD raised_fist_medium_skin_tone U+270B raised_hand hand
  U+270B+1F3FF raised_hand_dark_skin_tone U+270B+1F3FB raised_hand_light_skin_tone
  U+270B+1F3FE raised_hand_medium-dark_skin_tone U+270B+1F3FC raised_hand_medium-light_skin_tone
  U+270B+1F3FD raised_hand_medium_skin_tone U+1F64C raising_hands raised_hands
  U+1F64C+1F3FF raising_hands_dark_skin_tone U+1F64C+1F3FB raising_hands_light_skin_tone
  U+1F64C+1F3FE raising_hands_medium-dark_skin_tone
  U+1F64C+1F3FC raising_hands_medium-light_skin_tone U+1F64C+1F3FD raising_hands_medium_skin_tone
  U+1F40F ram U+1F400 rat U+1FA92 razor U+1FA90 ringed_planet U+1F9FE receipt U+23FA record_button
  U+23FA black_circle_for_record U+267B recycling_symbol recycle U+1F34E red_apple apple
  U+1F534 red_circle U+1F9E7 red_envelope U+1F9B0 red_hair U+1F468+200D+1F9B0 red-haired_man
  U+1F469+200D+1F9B0 red-haired_woman U+2764 red_heart heart U+1F3EE red_paper_lantern
  U+1F3EE izakaya_lantern lantern U+1F7E5 red_square U+1F53B red_triangle_pointed_down
  U+1F53B small_red_triangle_down U+1F53A red_triangle_pointed_up small_red_triangle
  U+AE registered U+1F60C relieved_face relieved U+1F397 reminder_ribbon U+1F501 repeat_button
  U+1F501 repeat U+1F502 repeat_single_button repeat_one U+26D1 rescue_worker’s_helmet
  U+26D1 helmet_with_white_cross U+1F6BB restroom U+25C0 reverse_button arrow_backward
  U+1F49E revolving_hearts U+1F98F rhinoceros U+1F380 ribbon U+1F359 rice_ball
  U+1F358 rice_cracker U+1F91C right-facing_fist U+1F91C+1F3FF right-facing_fist_dark_skin_tone
  U+1F91C+1F3FB right-facing_fist_light_skin_tone
  U+1F91C+1F3FE right-facing_fist_medium-dark_skin_tone
  U+1F91C+1F3FC right-facing_fist_medium-light_skin_tone
  U+1F91C+1F3FD right-facing_fist_medium_skin_tone U+1F5EF right_anger_bubble U+27A1 right_arrow
  U+27A1 arrow_right U+2935 right_arrow_curving_down arrow_heading_down
  U+21A9 right_arrow_curving_left leftwards_arrow_with_hook U+2934 right_arrow_curving_up
  U+2934 arrow_heading_up U+1F48D ring U+1F360 roasted_sweet_potato sweet_potato
  U+1F916 robot_face robot U+1F680 rocket U+1F9FB roll_of_paper U+1F5DE rolled-up_newspaper
  U+1F5DE rolled__up_newspaper U+1F3A2 roller_coaster U+1F923 rolling_on_the_floor_laughing
  U+1F413 rooster U+1F339 rose U+1F3F5 rosette U+1F4CD round_pushpin U+1F3C9 rugby_football
  U+1F3BD running_shirt running_shirt_with_sash U+1F45F running_shoe athletic_shoe
  U+1F625 sad_but_relieved_face disappointed_relieved U+1F9F7 safety_pin U+1F9BA safety_vest
  U+1F9C2 salt U+26F5 sailboat boat U+1F376 sake U+1F96A sandwich U+1F97B sari U+1F4E1 satellite
  U+1F4E1 satellite_antenna U+1F995 sauropod U+1F3B7 saxophone U+1F9E3 scarf U+1F3EB school
  U+1F392 school_backpack school_satchel U+2702 scissors U+1F982 scorpion U+1F4DC scroll
  U+1F4BA seat U+1F648 see-no-evil_monkey see_no_evil U+1F331 seedling U+1F933 selfie
  U+1F933+1F3FF selfie_dark_skin_tone U+1F933+1F3FB selfie_light_skin_tone
  U+1F933+1F3FE selfie_medium-dark_skin_tone U+1F933+1F3FC selfie_medium-light_skin_tone
  U+1F933+1F3FD selfie_medium_skin_tone U+1F415+200D+1F9BA service_dog U+1F562 seven-thirty
  U+1F562 clock730 U+1F556 seven_o’clock clock7 U+1F958 shallow_pan_of_food U+2618 shamrock
  U+1F988 shark U+1F367 shaved_ice U+1F33E sheaf_of_rice ear_of_rice U+1F6E1 shield
  U+26E9 shinto_shrine U+1F6A2 ship U+1F320 shooting_star stars U+1F6CD shopping_bags
  U+1F6D2 shopping_cart U+1F370 shortcake cake U+1FA73 shorts U+1F6BF shower U+1F990 shrimp
  U+1F500 shuffle_tracks_button twisted_rightwards_arrows U+1F92B shushing_face
  U+1F918 sign_of_the_horns U+1F918+1F3FF sign_of_the_horns_dark_skin_tone
  U+1F918+1F3FB sign_of_the_horns_light_skin_tone
  U+1F918+1F3FE sign_of_the_horns_medium-dark_skin_tone
  U+1F918+1F3FC sign_of_the_horns_medium-light_skin_tone
  U+1F918+1F3FD sign_of_the_horns_medium_skin_tone U+1F561 six-thirty clock630 U+1F555 six_o’clock
  U+1F555 clock6 U+1F6F9 skateboard U+26F7 skier U+1F3BF skis ski U+1F480 skull
  U+2620 skull_and_crossbones U+1F9A8 skunk U+1F6F7 sled U+1F634 sleeping_face sleeping
  U+1F62A sleepy_face sleepy U+1F641 slightly_frowning_face U+1F642 slightly_smiling_face
  U+1F3B0 slot_machine U+1F9A5 sloth U+1F6E9 small_airplane U+1F539 small_blue_diamond
  U+1F538 small_orange_diamond U+1F63B smiling_cat_face_with_heart-eyes heart_eyes_cat
  U+263A smiling_face relaxed U+1F607 smiling_face_with_halo innocent
  U+1F970 smiling_face_with_3_hearts U+1F60D smiling_face_with_heart-eyes heart_eyes
  U+1F608 smiling_face_with_horns smiling_imp U+1F60A smiling_face_with_smiling_eyes blush
  U+1F60E smiling_face_with_sunglasses sunglasses U+1F60F smirking_face smirk U+1F40C snail
  U+1F40D snake U+1F927 sneezing_face U+1F3D4 snow-capped_mountain snow_capped_mountain
  U+1F3C2 snowboarder U+1F3C2+1F3FF snowboarder_dark_skin_tone
  U+1F3C2+1F3FB snowboarder_light_skin_tone U+1F3C2+1F3FE snowboarder_medium-dark_skin_tone
  U+1F3C2+1F3FC snowboarder_medium-light_skin_tone U+1F3C2+1F3FD snowboarder_medium_skin_tone
  U+2744 snowflake U+2603 snowman U+26C4 snowman_without_snow U+1F9FC soap U+26BD soccer_ball
  U+26BD soccer U+1F9E6 socks U+1F94E softball U+1F366 soft_ice_cream icecream U+2660 spade_suit
  U+2660 spades U+1F35D spaghetti U+2747 sparkle U+1F387 sparkler U+2728 sparkles
  U+1F496 sparkling_heart U+1F64A speak-no-evil_monkey speak_no_evil U+1F50A speaker_high_volume
  U+1F50A loud_sound U+1F508 speaker_low_volume speaker U+1F509 speaker_medium_volume sound
  U+1F5E3 speaking_head speaking_head_in_silhouette U+1F4AC speech_balloon U+1F6A4 speedboat
  U+1F577 spider U+1F578 spider_web U+1F5D3 spiral_calendar spiral_calendar_pad
  U+1F5D2 spiral_notepad spiral_note_pad U+1F41A spiral_shell shell U+1F944 spoon U+1F9FD sponge
  U+1F699 sport_utility_vehicle blue_car U+1F3C5 sports_medal U+1F433 spouting_whale whale
  U+1F991 squid U+1F61D squinting_face_with_tongue stuck_out_tongue_closed_eyes U+1F3DF stadium
  U+1F929 star-struck U+262A star_and_crescent U+2721 star_of_david U+1F689 station
  U+1F35C steaming_bowl ramen U+1FA7A stethoscope U+23F9 stop_button black_square_for_stop
  U+1F6D1 stop_sign U+23F1 stopwatch U+1F4CF straight_ruler U+1F353 strawberry
  U+1F399 studio_microphone U+1F959 stuffed_flatbread U+2600 sun sunny U+26C5 sun_behind_cloud
  U+26C5 partly_sunny U+1F325 sun_behind_large_cloud white_sun_behind_cloud
  U+1F326 sun_behind_rain_cloud white_sun_behind_cloud_with_rain U+1F324 sun_behind_small_cloud
  U+1F324 white_sun_with_small_cloud U+1F31E sun_with_face U+1F33B sunflower U+1F305 sunrise
  U+1F304 sunrise_over_mountains U+1F307 sunset city_sunrise U+1F9B8 superhero
  U+1F9B9 supervillain U+1F363 sushi U+1F69F suspension_railway U+1F9A2 swan
  U+1F4A6 sweat_droplets sweat_drops U+1F54D synagogue U+1F489 syringe U+1F455 t-shirt shirt
  U+1F455 tshirt U+1F32E taco U+1F961 takeout_box U+1F38B tanabata_tree U+1F34A tangerine
  U+1F695 taxi U+1F375 teacup_without_handle tea U+1F9F8 teddy_bear U+260E telephone phone
  U+1F4DE telephone_receiver U+1F52D telescope U+1F4FA television tv U+1F565 ten-thirty clock1030
  U+1F559 ten_o’clock clock10 U+1F3BE tennis U+26FA tent U+1F9EA test_tube U+1F321 thermometer
  U+1F914 thinking_face U+1F4AD thought_balloon U+1F9F5 thread U+1F55E three-thirty clock330
  U+1F552 three_o’clock clock3 U+1F44E thumbs_down __1 -1 thumbsdown
  U+1F44E+1F3FF thumbs_down_dark_skin_tone U+1F44E+1F3FB thumbs_down_light_skin_tone
  U+1F44E+1F3FE thumbs_down_medium-dark_skin_tone U+1F44E+1F3FC thumbs_down_medium-light_skin_tone
  U+1F44E+1F3FD thumbs_down_medium_skin_tone U+1F44D thumbs_up +1 thumbsup
  U+1F44D+1F3FF thumbs_up_dark_skin_tone U+1F44D+1F3FB thumbs_up_light_skin_tone
  U+1F44D+1F3FE thumbs_up_medium-dark_skin_tone U+1F44D+1F3FC thumbs_up_medium-light_skin_tone
  U+1F44D+1F3FD thumbs_up_medium_skin_tone U+1F3AB ticket U+1F42F tiger tiger_face
  U+23F2 timer_clock U+1F62B tired_face U+1F9F0 toolbox U+1F6BD toilet U+1F345 tomato
  U+1F445 tongue U+1F9B7 tooth U+1F3A9 top_hat tophat U+1F32A tornado cloud_with_tornado
  U+1F5B2 trackball U+1F69C tractor U+2122 trade_mark tm U+1F68B train tram_car U+1F68A tram
  U+1F6A9 triangular_flag triangular_flag_on_post U+1F4D0 triangular_ruler U+1F531 trident_emblem
  U+1F531 trident U+1F68E trolleybus U+1F3C6 trophy U+1F379 tropical_drink U+1F420 tropical_fish
  U+1F3BA trumpet U+1F337 tulip U+1F943 tumbler_glass U+1F422 turtle U+1F567 twelve-thirty
  U+1F567 clock1230 U+1F55B twelve_o’clock clock12 U+1F55D two-thirty clock230 U+1F495 two_hearts
  U+1F46C two_men_holding_hands U+1F551 two_o’clock clock2 U+1F46D two_women_holding_hands
  U+2602 umbrella U+26F1 umbrella_on_ground U+2614 umbrella_with_rain_drops U+1F612 unamused_face
  U+1F612 unamused U+1F984 unicorn_face U+1F513 unlocked unlock U+2195 up-down_arrow arrow_up_down
  U+2196 up-left_arrow arrow_upper_left U+2197 up-right_arrow arrow_upper_right U+2B06 up_arrow
  U+2B06 arrow_up U+1F643 upside-down_face upside__down_face U+1F53C upwards_button arrow_up_small
  U+1F9DB vampire U+1F9DB+1F3FF vampire_dark_skin_tone U+1F9DB+1F3FB vampire_light_skin_tone
  U+1F9DB+1F3FE vampire_medium-dark_skin_tone U+1F9DB+1F3FC vampire_medium-light_skin_tone
  U+1F9DB+1F3FD vampire_medium_skin_tone U+1F6A6 vertical_traffic_light U+1F4F3 vibration_mode
  U+270C victory_hand v U+270C+1F3FF victory_hand_dark_skin_tone
  U+270C+1F3FB victory_hand_light_skin_tone U+270C+1F3FE victory_hand_medium-dark_skin_tone
  U+270C+1F3FC victory_hand_medium-light_skin_tone U+270C+1F3FD victory_hand_medium_skin_tone
  U+1F4F9 video_camera U+1F3AE video_game U+1F4FC videocassette vhs U+1F3BB violin U+1F30B volcano
  U+1F3D0 volleyball U+1F596 vulcan_salute raised_hand_with_part_between_middle_and_ring_fingers
  U+1F596+1F3FF vulcan_salute_dark_skin_tone U+1F596+1F3FB vulcan_salute_light_skin_tone
  U+1F596+1F3FE vulcan_salute_medium-dark_skin_tone
  U+1F596+1F3FC vulcan_salute_medium-light_skin_tone U+1F596+1F3FD vulcan_salute_medium_skin_tone
  U+1F9C7 waffle U+1F318 waning_crescent_moon U+1F316 waning_gibbous_moon U+26A0 warning
  U+1F5D1 wastebasket U+231A watch U+1F403 water_buffalo U+1F6BE water_closet wc
  U+1F30A water_wave ocean U+1F349 watermelon U+1F44B waving_hand wave
  U+1F44B+1F3FF waving_hand_dark_skin_tone U+1F44B+1F3FB waving_hand_light_skin_tone
  U+1F44B+1F3FE waving_hand_medium-dark_skin_tone U+1F44B+1F3FC waving_hand_medium-light_skin_tone
  U+1F44B+1F3FD waving_hand_medium_skin_tone U+3030 wavy_dash U+1F312 waxing_crescent_moon
  U+1F314 waxing_gibbous_moon moon U+1F640 weary_cat_face scream_cat U+1F629 weary_face weary
  U+1F492 wedding U+2638 wheel_of_dharma U+267F wheelchair_symbol wheelchair U+26AA white_circle
  U+2755 white_exclamation_mark grey_exclamation U+1F3F3 white_flag waving_white_flag
  U+1F4AE white_flower U+1F9B3 white_hair U+1F468+200D+1F9B3 white-haired_man
  U+1F469+200D+1F9B3 white-haired_woman U+1F90D white_heart U+2705 white_heavy_check_mark
  U+2705 white_check_mark U+2B1C white_large_square U+25FD white_medium-small_square
  U+25FD white_medium_small_square U+25FB white_medium_square U+2B50 white_medium_star star
  U+2754 white_question_mark grey_question U+25AB white_small_square U+1F533 white_square_button
  U+1F940 wilted_flower U+1F390 wind_chime U+1F32C wind_face wind_blowing_face U+1F377 wine_glass
  U+1F609 winking_face wink U+1F61C winking_face_with_tongue stuck_out_tongue_winking_eye
  U+1F43A wolf_face wolf U+1F469 woman U+1F469+200D+1F3A8 woman_artist
  U+1F469+1F3FF+200D+1F3A8 woman_artist_dark_skin_tone
  U+1F469+1F3FB+200D+1F3A8 woman_artist_light_skin_tone
  U+1F469+1F3FE+200D+1F3A8 woman_artist_medium-dark_skin_tone
  U+1F469+1F3FC+200D+1F3A8 woman_artist_medium-light_skin_tone
  U+1F469+1F3FD+200D+1F3A8 woman_artist_medium_skin_tone U+1F469+200D+1F680 woman_astronaut
  U+1F469+1F3FF+200D+1F680 woman_astronaut_dark_skin_tone
  U+1F469+1F3FB+200D+1F680 woman_astronaut_light_skin_tone
  U+1F469+1F3FE+200D+1F680 woman_astronaut_medium-dark_skin_tone
  U+1F469+1F3FC+200D+1F680 woman_astronaut_medium-light_skin_tone
  U+1F469+1F3FD+200D+1F680 woman_astronaut_medium_skin_tone U+1F6B4+200D+2640+FE0F woman_biking
  U+1F6B4+1F3FF+200D+2640+FE0F woman_biking_dark_skin_tone
  U+1F6B4+1F3FB+200D+2640+FE0F woman_biking_light_skin_tone
  U+1F6B4+1F3FE+200D+2640+FE0F woman_biking_medium-dark_skin_tone
  U+1F6B4+1F3FC+200D+2640+FE0F woman_biking_medium-light_skin_tone
  U+1F6B4+1F3FD+200D+2640+FE0F woman_biking_medium_skin_tone
  U+26F9+FE0F+200D+2640+FE0F woman_bouncing_ball
  U+26F9+1F3FF+200D+2640+FE0F woman_bouncing_ball_dark_skin_tone
  U+26F9+1F3FB+200D+2640+FE0F woman_bouncing_ball_light_skin_tone
  U+26F9+1F3FE+200D+2640+FE0F woman_bouncing_ball_medium-dark_skin_tone
  U+26F9+1F3FC+200D+2640+FE0F woman_bouncing_ball_medium-light_skin_tone
  U+26F9+1F3FD+200D+2640+FE0F woman_bouncing_ball_medium_skin_tone
  U+1F647+200D+2640+FE0F woman_bowing U+1F647+1F3FF+200D+2640+FE0F woman_bowing_dark_skin_tone
  U+1F647+1F3FB+200D+2640+FE0F woman_bowing_light_skin_tone
  U+1F647+1F3FE+200D+2640+FE0F woman_bowing_medium-dark_skin_tone
  U+1F647+1F3FC+200D+2640+FE0F woman_bowing_medium-light_skin_tone
  U+1F647+1F3FD+200D+2640+FE0F woman_bowing_medium_skin_tone
  U+1F938+200D+2640+FE0F woman_cartwheeling
  U+1F938+1F3FF+200D+2640+FE0F woman_cartwheeling_dark_skin_tone
  U+1F938+1F3FB+200D+2640+FE0F woman_cartwheeling_light_skin_tone
  U+1F938+1F3FE+200D+2640+FE0F woman_cartwheeling_medium-dark_skin_tone
  U+1F938+1F3FC+200D+2640+FE0F woman_cartwheeling_medium-light_skin_tone
  U+1F938+1F3FD+200D+2640+FE0F woman_cartwheeling_medium_skin_tone
  U+1F9D7+200D+2640+FE0F woman_climbing U+1F9D7+1F3FF+200D+2640+FE0F woman_climbing_dark_skin_tone
  U+1F9D7+1F3FB+200D+2640+FE0F woman_climbing_light_skin_tone
  U+1F9D7+1F3FE+200D+2640+FE0F woman_climbing_medium-dark_skin_tone
  U+1F9D7+1F3FC+200D+2640+FE0F woman_climbing_medium-light_skin_tone
  U+1F9D7+1F3FD+200D+2640+FE0F woman_climbing_medium_skin_tone
  U+1F477+200D+2640+FE0F woman_construction_worker
  U+1F477+1F3FF+200D+2640+FE0F woman_construction_worker_dark_skin_tone
  U+1F477+1F3FB+200D+2640+FE0F woman_construction_worker_light_skin_tone
  U+1F477+1F3FE+200D+2640+FE0F woman_construction_worker_medium-dark_skin_tone
  U+1F477+1F3FC+200D+2640+FE0F woman_construction_worker_medium-light_skin_tone
  U+1F477+1F3FD+200D+2640+FE0F woman_construction_worker_medium_skin_tone
  U+1F469+200D+1F373 woman_cook U+1F469+1F3FF+200D+1F373 woman_cook_dark_skin_tone
  U+1F469+1F3FB+200D+1F373 woman_cook_light_skin_tone
  U+1F469+1F3FE+200D+1F373 woman_cook_medium-dark_skin_tone
  U+1F469+1F3FC+200D+1F373 woman_cook_medium-light_skin_tone
  U+1F469+1F3FD+200D+1F373 woman_cook_medium_skin_tone U+1F483 woman_dancing dancer
  U+1F483+1F3FF woman_dancing_dark_skin_tone U+1F483+1F3FB woman_dancing_light_skin_tone
  U+1F483+1F3FE woman_dancing_medium-dark_skin_tone
  U+1F483+1F3FC woman_dancing_medium-light_skin_tone U+1F483+1F3FD woman_dancing_medium_skin_tone
  U+1F469+1F3FF woman_dark_skin_tone U+1F575+FE0F+200D+2640+FE0F woman_detective
  U+1F575+1F3FF+200D+2640+FE0F woman_detective_dark_skin_tone
  U+1F575+1F3FB+200D+2640+FE0F woman_detective_light_skin_tone
  U+1F575+1F3FE+200D+2640+FE0F woman_detective_medium-dark_skin_tone
  U+1F575+1F3FC+200D+2640+FE0F woman_detective_medium-light_skin_tone
  U+1F575+1F3FD+200D+2640+FE0F woman_detective_medium_skin_tone U+1F9DD+200D+2640+FE0F woman_elf
  U+1F9DD+1F3FF+200D+2640+FE0F woman_elf_dark_skin_tone
  U+1F9DD+1F3FB+200D+2640+FE0F woman_elf_light_skin_tone
  U+1F9DD+1F3FE+200D+2640+FE0F woman_elf_medium-dark_skin_tone
  U+1F9DD+1F3FC+200D+2640+FE0F woman_elf_medium-light_skin_tone
  U+1F9DD+1F3FD+200D+2640+FE0F woman_elf_medium_skin_tone U+1F926+200D+2640+FE0F woman_facepalming
  U+1F926+1F3FF+200D+2640+FE0F woman_facepalming_dark_skin_tone
  U+1F926+1F3FB+200D+2640+FE0F woman_facepalming_light_skin_tone
  U+1F926+1F3FE+200D+2640+FE0F woman_facepalming_medium-dark_skin_tone
  U+1F926+1F3FC+200D+2640+FE0F woman_facepalming_medium-light_skin_tone
  U+1F926+1F3FD+200D+2640+FE0F woman_facepalming_medium_skin_tone
  U+1F469+200D+1F3ED woman_factory_worker
  U+1F469+1F3FF+200D+1F3ED woman_factory_worker_dark_skin_tone
  U+1F469+1F3FB+200D+1F3ED woman_factory_worker_light_skin_tone
  U+1F469+1F3FE+200D+1F3ED woman_factory_worker_medium-dark_skin_tone
  U+1F469+1F3FC+200D+1F3ED woman_factory_worker_medium-light_skin_tone
  U+1F469+1F3FD+200D+1F3ED woman_factory_worker_medium_skin_tone
  U+1F9DA+200D+2640+FE0F woman_fairy U+1F9DA+1F3FF+200D+2640+FE0F woman_fairy_dark_skin_tone
  U+1F9DA+1F3FB+200D+2640+FE0F woman_fairy_light_skin_tone
  U+1F9DA+1F3FE+200D+2640+FE0F woman_fairy_medium-dark_skin_tone
  U+1F9DA+1F3FC+200D+2640+FE0F woman_fairy_medium-light_skin_tone
  U+1F9DA+1F3FD+200D+2640+FE0F woman_fairy_medium_skin_tone U+1F469+200D+1F33E woman_farmer
  U+1F469+1F3FF+200D+1F33E woman_farmer_dark_skin_tone
  U+1F469+1F3FB+200D+1F33E woman_farmer_light_skin_tone
  U+1F469+1F3FE+200D+1F33E woman_farmer_medium-dark_skin_tone
  U+1F469+1F3FC+200D+1F33E woman_farmer_medium-light_skin_tone
  U+1F469+1F3FD+200D+1F33E woman_farmer_medium_skin_tone U+1F469+200D+1F692 woman_firefighter
  U+1F469+1F3FF+200D+1F692 woman_firefighter_dark_skin_tone
  U+1F469+1F3FB+200D+1F692 woman_firefighter_light_skin_tone
  U+1F469+1F3FE+200D+1F692 woman_firefighter_medium-dark_skin_tone
  U+1F469+1F3FC+200D+1F692 woman_firefighter_medium-light_skin_tone
  U+1F469+1F3FD+200D+1F692 woman_firefighter_medium_skin_tone
  U+1F64D+200D+2640+FE0F woman_frowning U+1F64D+1F3FF+200D+2640+FE0F woman_frowning_dark_skin_tone
  U+1F64D+1F3FB+200D+2640+FE0F woman_frowning_light_skin_tone
  U+1F64D+1F3FE+200D+2640+FE0F woman_frowning_medium-dark_skin_tone
  U+1F64D+1F3FC+200D+2640+FE0F woman_frowning_medium-light_skin_tone
  U+1F64D+1F3FD+200D+2640+FE0F woman_frowning_medium_skin_tone U+1F9DE+200D+2640+FE0F woman_genie
  U+1F645+200D+2640+FE0F woman_gesturing_no
  U+1F645+1F3FF+200D+2640+FE0F woman_gesturing_no_dark_skin_tone
  U+1F645+1F3FB+200D+2640+FE0F woman_gesturing_no_light_skin_tone
  U+1F645+1F3FE+200D+2640+FE0F woman_gesturing_no_medium-dark_skin_tone
  U+1F645+1F3FC+200D+2640+FE0F woman_gesturing_no_medium-light_skin_tone
  U+1F645+1F3FD+200D+2640+FE0F woman_gesturing_no_medium_skin_tone
  U+1F646+200D+2640+FE0F woman_gesturing_ok
  U+1F646+1F3FF+200D+2640+FE0F woman_gesturing_ok_dark_skin_tone
  U+1F646+1F3FB+200D+2640+FE0F woman_gesturing_ok_light_skin_tone
  U+1F646+1F3FE+200D+2640+FE0F woman_gesturing_ok_medium-dark_skin_tone
  U+1F646+1F3FC+200D+2640+FE0F woman_gesturing_ok_medium-light_skin_tone
  U+1F646+1F3FD+200D+2640+FE0F woman_gesturing_ok_medium_skin_tone
  U+1F487+200D+2640+FE0F woman_getting_haircut
  U+1F487+1F3FF+200D+2640+FE0F woman_getting_haircut_dark_skin_tone
  U+1F487+1F3FB+200D+2640+FE0F woman_getting_haircut_light_skin_tone
  U+1F487+1F3FE+200D+2640+FE0F woman_getting_haircut_medium-dark_skin_tone
  U+1F487+1F3FC+200D+2640+FE0F woman_getting_haircut_medium-light_skin_tone
  U+1F487+1F3FD+200D+2640+FE0F woman_getting_haircut_medium_skin_tone
  U+1F486+200D+2640+FE0F woman_getting_massage
  U+1F486+1F3FF+200D+2640+FE0F woman_getting_massage_dark_skin_tone
  U+1F486+1F3FB+200D+2640+FE0F woman_getting_massage_light_skin_tone
  U+1F486+1F3FE+200D+2640+FE0F woman_getting_massage_medium-dark_skin_tone
  U+1F486+1F3FC+200D+2640+FE0F woman_getting_massage_medium-light_skin_tone
  U+1F486+1F3FD+200D+2640+FE0F woman_getting_massage_medium_skin_tone
  U+1F3CC+FE0F+200D+2640+FE0F woman_golfing
  U+1F3CC+1F3FF+200D+2640+FE0F woman_golfing_dark_skin_tone
  U+1F3CC+1F3FB+200D+2640+FE0F woman_golfing_light_skin_tone
  U+1F3CC+1F3FE+200D+2640+FE0F woman_golfing_medium-dark_skin_tone
  U+1F3CC+1F3FC+200D+2640+FE0F woman_golfing_medium-light_skin_tone
  U+1F3CC+1F3FD+200D+2640+FE0F woman_golfing_medium_skin_tone U+1F482+200D+2640+FE0F woman_guard
  U+1F482+1F3FF+200D+2640+FE0F woman_guard_dark_skin_tone
  U+1F482+1F3FB+200D+2640+FE0F woman_guard_light_skin_tone
  U+1F482+1F3FE+200D+2640+FE0F woman_guard_medium-dark_skin_tone
  U+1F482+1F3FC+200D+2640+FE0F woman_guard_medium-light_skin_tone
  U+1F482+1F3FD+200D+2640+FE0F woman_guard_medium_skin_tone
  U+1F469+200D+2695+FE0F woman_health_worker
  U+1F469+1F3FF+200D+2695+FE0F woman_health_worker_dark_skin_tone
  U+1F469+1F3FB+200D+2695+FE0F woman_health_worker_light_skin_tone
  U+1F469+1F3FE+200D+2695+FE0F woman_health_worker_medium-dark_skin_tone
  U+1F469+1F3FC+200D+2695+FE0F woman_health_worker_medium-light_skin_tone
  U+1F469+1F3FD+200D+2695+FE0F woman_health_worker_medium_skin_tone
  U+1F9D8+200D+2640+FE0F woman_in_lotus_position
  U+1F9D8+1F3FF+200D+2640+FE0F woman_in_lotus_position_dark_skin_tone
  U+1F9D8+1F3FB+200D+2640+FE0F woman_in_lotus_position_light_skin_tone
  U+1F9D8+1F3FE+200D+2640+FE0F woman_in_lotus_position_medium-dark_skin_tone
  U+1F9D8+1F3FC+200D+2640+FE0F woman_in_lotus_position_medium-light_skin_tone
  U+1F9D8+1F3FD+200D+2640+FE0F woman_in_lotus_position_medium_skin_tone
  U+1F469+200D+1F9BD woman_in_manual_wheelchair U+1F469+200D+1F9BC woman_in_motorized_wheelchair
  U+1F9D6+200D+2640+FE0F woman_in_steamy_room
  U+1F9D6+1F3FF+200D+2640+FE0F woman_in_steamy_room_dark_skin_tone
  U+1F9D6+1F3FB+200D+2640+FE0F woman_in_steamy_room_light_skin_tone
  U+1F9D6+1F3FE+200D+2640+FE0F woman_in_steamy_room_medium-dark_skin_tone
  U+1F9D6+1F3FC+200D+2640+FE0F woman_in_steamy_room_medium-light_skin_tone
  U+1F9D6+1F3FD+200D+2640+FE0F woman_in_steamy_room_medium_skin_tone
  U+1F469+200D+2696+FE0F woman_judge U+1F469+1F3FF+200D+2696+FE0F woman_judge_dark_skin_tone
  U+1F469+1F3FB+200D+2696+FE0F woman_judge_light_skin_tone
  U+1F469+1F3FE+200D+2696+FE0F woman_judge_medium-dark_skin_tone
  U+1F469+1F3FC+200D+2696+FE0F woman_judge_medium-light_skin_tone
  U+1F469+1F3FD+200D+2696+FE0F woman_judge_medium_skin_tone U+1F939+200D+2640+FE0F woman_juggling
  U+1F939+1F3FF+200D+2640+FE0F woman_juggling_dark_skin_tone
  U+1F939+1F3FB+200D+2640+FE0F woman_juggling_light_skin_tone
  U+1F939+1F3FE+200D+2640+FE0F woman_juggling_medium-dark_skin_tone
  U+1F939+1F3FC+200D+2640+FE0F woman_juggling_medium-light_skin_tone
  U+1F939+1F3FD+200D+2640+FE0F woman_juggling_medium_skin_tone
  U+1F3CB+FE0F+200D+2640+FE0F woman_lifting_weights
  U+1F3CB+1F3FF+200D+2640+FE0F woman_lifting_weights_dark_skin_tone
  U+1F3CB+1F3FB+200D+2640+FE0F woman_lifting_weights_light_skin_tone
  U+1F3CB+1F3FE+200D+2640+FE0F woman_lifting_weights_medium-dark_skin_tone
  U+1F3CB+1F3FC+200D+2640+FE0F woman_lifting_weights_medium-light_skin_tone
  U+1F3CB+1F3FD+200D+2640+FE0F woman_lifting_weights_medium_skin_tone
  U+1F469+1F3FB woman_light_skin_tone U+1F9D9+200D+2640+FE0F woman_mage
  U+1F9D9+1F3FF+200D+2640+FE0F woman_mage_dark_skin_tone
  U+1F9D9+1F3FB+200D+2640+FE0F woman_mage_light_skin_tone
  U+1F9D9+1F3FE+200D+2640+FE0F woman_mage_medium-dark_skin_tone
  U+1F9D9+1F3FC+200D+2640+FE0F woman_mage_medium-light_skin_tone
  U+1F9D9+1F3FD+200D+2640+FE0F woman_mage_medium_skin_tone U+1F469+200D+1F527 woman_mechanic
  U+1F469+1F3FF+200D+1F527 woman_mechanic_dark_skin_tone
  U+1F469+1F3FB+200D+1F527 woman_mechanic_light_skin_tone
  U+1F469+1F3FE+200D+1F527 woman_mechanic_medium-dark_skin_tone
  U+1F469+1F3FC+200D+1F527 woman_mechanic_medium-light_skin_tone
  U+1F469+1F3FD+200D+1F527 woman_mechanic_medium_skin_tone
  U+1F469+1F3FE woman_medium-dark_skin_tone U+1F469+1F3FC woman_medium-light_skin_tone
  U+1F469+1F3FD woman_medium_skin_tone U+1F6B5+200D+2640+FE0F woman_mountain_biking
  U+1F6B5+1F3FF+200D+2640+FE0F woman_mountain_biking_dark_skin_tone
  U+1F6B5+1F3FB+200D+2640+FE0F woman_mountain_biking_light_skin_tone
  U+1F6B5+1F3FE+200D+2640+FE0F woman_mountain_biking_medium-dark_skin_tone
  U+1F6B5+1F3FC+200D+2640+FE0F woman_mountain_biking_medium-light_skin_tone
  U+1F6B5+1F3FD+200D+2640+FE0F woman_mountain_biking_medium_skin_tone
  U+1F469+200D+1F4BC woman_office_worker
  U+1F469+1F3FF+200D+1F4BC woman_office_worker_dark_skin_tone
  U+1F469+1F3FB+200D+1F4BC woman_office_worker_light_skin_tone
  U+1F469+1F3FE+200D+1F4BC woman_office_worker_medium-dark_skin_tone
  U+1F469+1F3FC+200D+1F4BC woman_office_worker_medium-light_skin_tone
  U+1F469+1F3FD+200D+1F4BC woman_office_worker_medium_skin_tone U+1F469+200D+2708+FE0F woman_pilot
  U+1F469+1F3FF+200D+2708+FE0F woman_pilot_dark_skin_tone
  U+1F469+1F3FB+200D+2708+FE0F woman_pilot_light_skin_tone
  U+1F469+1F3FE+200D+2708+FE0F woman_pilot_medium-dark_skin_tone
  U+1F469+1F3FC+200D+2708+FE0F woman_pilot_medium-light_skin_tone
  U+1F469+1F3FD+200D+2708+FE0F woman_pilot_medium_skin_tone
  U+1F93E+200D+2640+FE0F woman_playing_handball
  U+1F93E+1F3FF+200D+2640+FE0F woman_playing_handball_dark_skin_tone
  U+1F93E+1F3FB+200D+2640+FE0F woman_playing_handball_light_skin_tone
  U+1F93E+1F3FE+200D+2640+FE0F woman_playing_handball_medium-dark_skin_tone
  U+1F93E+1F3FC+200D+2640+FE0F woman_playing_handball_medium-light_skin_tone
  U+1F93E+1F3FD+200D+2640+FE0F woman_playing_handball_medium_skin_tone
  U+1F93D+200D+2640+FE0F woman_playing_water_polo
  U+1F93D+1F3FF+200D+2640+FE0F woman_playing_water_polo_dark_skin_tone
  U+1F93D+1F3FB+200D+2640+FE0F woman_playing_water_polo_light_skin_tone
  U+1F93D+1F3FE+200D+2640+FE0F woman_playing_water_polo_medium-dark_skin_tone
  U+1F93D+1F3FC+200D+2640+FE0F woman_playing_water_polo_medium-light_skin_tone
  U+1F93D+1F3FD+200D+2640+FE0F woman_playing_water_polo_medium_skin_tone
  U+1F46E+200D+2640+FE0F woman_police_officer
  U+1F46E+1F3FF+200D+2640+FE0F woman_police_officer_dark_skin_tone
  U+1F46E+1F3FB+200D+2640+FE0F woman_police_officer_light_skin_tone
  U+1F46E+1F3FE+200D+2640+FE0F woman_police_officer_medium-dark_skin_tone
  U+1F46E+1F3FC+200D+2640+FE0F woman_police_officer_medium-light_skin_tone
  U+1F46E+1F3FD+200D+2640+FE0F woman_police_officer_medium_skin_tone
  U+1F64E+200D+2640+FE0F woman_pouting U+1F64E+1F3FF+200D+2640+FE0F woman_pouting_dark_skin_tone
  U+1F64E+1F3FB+200D+2640+FE0F woman_pouting_light_skin_tone
  U+1F64E+1F3FE+200D+2640+FE0F woman_pouting_medium-dark_skin_tone
  U+1F64E+1F3FC+200D+2640+FE0F woman_pouting_medium-light_skin_tone
  U+1F64E+1F3FD+200D+2640+FE0F woman_pouting_medium_skin_tone
  U+1F64B+200D+2640+FE0F woman_raising_hand
  U+1F64B+1F3FF+200D+2640+FE0F woman_raising_hand_dark_skin_tone
  U+1F64B+1F3FB+200D+2640+FE0F woman_raising_hand_light_skin_tone
  U+1F64B+1F3FE+200D+2640+FE0F woman_raising_hand_medium-dark_skin_tone
  U+1F64B+1F3FC+200D+2640+FE0F woman_raising_hand_medium-light_skin_tone
  U+1F64B+1F3FD+200D+2640+FE0F woman_raising_hand_medium_skin_tone
  U+1F6A3+200D+2640+FE0F woman_rowing_boat
  U+1F6A3+1F3FF+200D+2640+FE0F woman_rowing_boat_dark_skin_tone
  U+1F6A3+1F3FB+200D+2640+FE0F woman_rowing_boat_light_skin_tone
  U+1F6A3+1F3FE+200D+2640+FE0F woman_rowing_boat_medium-dark_skin_tone
  U+1F6A3+1F3FC+200D+2640+FE0F woman_rowing_boat_medium-light_skin_tone
  U+1F6A3+1F3FD+200D+2640+FE0F woman_rowing_boat_medium_skin_tone
  U+1F3C3+200D+2640+FE0F woman_running U+1F3C3+1F3FF+200D+2640+FE0F woman_running_dark_skin_tone
  U+1F3C3+1F3FB+200D+2640+FE0F woman_running_light_skin_tone
  U+1F3C3+1F3FE+200D+2640+FE0F woman_running_medium-dark_skin_tone
  U+1F3C3+1F3FC+200D+2640+FE0F woman_running_medium-light_skin_tone
  U+1F3C3+1F3FD+200D+2640+FE0F woman_running_medium_skin_tone U+1F469+200D+1F52C woman_scientist
  U+1F469+1F3FF+200D+1F52C woman_scientist_dark_skin_tone
  U+1F469+1F3FB+200D+1F52C woman_scientist_light_skin_tone
  U+1F469+1F3FE+200D+1F52C woman_scientist_medium-dark_skin_tone
  U+1F469+1F3FC+200D+1F52C woman_scientist_medium-light_skin_tone
  U+1F469+1F3FD+200D+1F52C woman_scientist_medium_skin_tone U+1F937+200D+2640+FE0F woman_shrugging
  U+1F937+1F3FF+200D+2640+FE0F woman_shrugging_dark_skin_tone
  U+1F937+1F3FB+200D+2640+FE0F woman_shrugging_light_skin_tone
  U+1F937+1F3FE+200D+2640+FE0F woman_shrugging_medium-dark_skin_tone
  U+1F937+1F3FC+200D+2640+FE0F woman_shrugging_medium-light_skin_tone
  U+1F937+1F3FD+200D+2640+FE0F woman_shrugging_medium_skin_tone U+1F469+200D+1F3A4 woman_singer
  U+1F469+1F3FF+200D+1F3A4 woman_singer_dark_skin_tone
  U+1F469+1F3FB+200D+1F3A4 woman_singer_light_skin_tone
  U+1F469+1F3FE+200D+1F3A4 woman_singer_medium-dark_skin_tone
  U+1F469+1F3FC+200D+1F3A4 woman_singer_medium-light_skin_tone
  U+1F469+1F3FD+200D+1F3A4 woman_singer_medium_skin_tone U+1F469+200D+1F393 woman_student
  U+1F469+1F3FF+200D+1F393 woman_student_dark_skin_tone
  U+1F469+1F3FB+200D+1F393 woman_student_light_skin_tone
  U+1F469+1F3FE+200D+1F393 woman_student_medium-dark_skin_tone
  U+1F469+1F3FC+200D+1F393 woman_student_medium-light_skin_tone
  U+1F469+1F3FD+200D+1F393 woman_student_medium_skin_tone U+1F3C4+200D+2640+FE0F woman_surfing
  U+1F3C4+1F3FF+200D+2640+FE0F woman_surfing_dark_skin_tone
  U+1F3C4+1F3FB+200D+2640+FE0F woman_surfing_light_skin_tone
  U+1F3C4+1F3FE+200D+2640+FE0F woman_surfing_medium-dark_skin_tone
  U+1F3C4+1F3FC+200D+2640+FE0F woman_surfing_medium-light_skin_tone
  U+1F3C4+1F3FD+200D+2640+FE0F woman_surfing_medium_skin_tone
  U+1F3CA+200D+2640+FE0F woman_swimming U+1F3CA+1F3FF+200D+2640+FE0F woman_swimming_dark_skin_tone
  U+1F3CA+1F3FB+200D+2640+FE0F woman_swimming_light_skin_tone
  U+1F3CA+1F3FE+200D+2640+FE0F woman_swimming_medium-dark_skin_tone
  U+1F3CA+1F3FC+200D+2640+FE0F woman_swimming_medium-light_skin_tone
  U+1F3CA+1F3FD+200D+2640+FE0F woman_swimming_medium_skin_tone U+1F469+200D+1F3EB woman_teacher
  U+1F469+1F3FF+200D+1F3EB woman_teacher_dark_skin_tone
  U+1F469+1F3FB+200D+1F3EB woman_teacher_light_skin_tone
  U+1F469+1F3FE+200D+1F3EB woman_teacher_medium-dark_skin_tone
  U+1F469+1F3FC+200D+1F3EB woman_teacher_medium-light_skin_tone
  U+1F469+1F3FD+200D+1F3EB woman_teacher_medium_skin_tone U+1F469+200D+1F4BB woman_technologist
  U+1F469+1F3FF+200D+1F4BB woman_technologist_dark_skin_tone
  U+1F469+1F3FB+200D+1F4BB woman_technologist_light_skin_tone
  U+1F469+1F3FE+200D+1F4BB woman_technologist_medium-dark_skin_tone
  U+1F469+1F3FC+200D+1F4BB woman_technologist_medium-light_skin_tone
  U+1F469+1F3FD+200D+1F4BB woman_technologist_medium_skin_tone
  U+1F481+200D+2640+FE0F woman_tipping_hand
  U+1F481+1F3FF+200D+2640+FE0F woman_tipping_hand_dark_skin_tone
  U+1F481+1F3FB+200D+2640+FE0F woman_tipping_hand_light_skin_tone
  U+1F481+1F3FE+200D+2640+FE0F woman_tipping_hand_medium-dark_skin_tone
  U+1F481+1F3FC+200D+2640+FE0F woman_tipping_hand_medium-light_skin_tone
  U+1F481+1F3FD+200D+2640+FE0F woman_tipping_hand_medium_skin_tone
  U+1F9DB+200D+2640+FE0F woman_vampire U+1F9DB+1F3FF+200D+2640+FE0F woman_vampire_dark_skin_tone
  U+1F9DB+1F3FB+200D+2640+FE0F woman_vampire_light_skin_tone
  U+1F9DB+1F3FE+200D+2640+FE0F woman_vampire_medium-dark_skin_tone
  U+1F9DB+1F3FC+200D+2640+FE0F woman_vampire_medium-light_skin_tone
  U+1F9DB+1F3FD+200D+2640+FE0F woman_vampire_medium_skin_tone U+1F6B6+200D+2640+FE0F woman_walking
  U+1F6B6+1F3FF+200D+2640+FE0F woman_walking_dark_skin_tone
  U+1F6B6+1F3FB+200D+2640+FE0F woman_walking_light_skin_tone
  U+1F6B6+1F3FE+200D+2640+FE0F woman_walking_medium-dark_skin_tone
  U+1F6B6+1F3FC+200D+2640+FE0F woman_walking_medium-light_skin_tone
  U+1F6B6+1F3FD+200D+2640+FE0F woman_walking_medium_skin_tone
  U+1F473+200D+2640+FE0F woman_wearing_turban
  U+1F473+1F3FF+200D+2640+FE0F woman_wearing_turban_dark_skin_tone
  U+1F473+1F3FB+200D+2640+FE0F woman_wearing_turban_light_skin_tone
  U+1F473+1F3FE+200D+2640+FE0F woman_wearing_turban_medium-dark_skin_tone
  U+1F473+1F3FC+200D+2640+FE0F woman_wearing_turban_medium-light_skin_tone
  U+1F473+1F3FD+200D+2640+FE0F woman_wearing_turban_medium_skin_tone U+1F9D5 woman_with_headscarf
  U+1F9D5+1F3FF woman_with_headscarf_dark_skin_tone
  U+1F9D5+1F3FB woman_with_headscarf_light_skin_tone
  U+1F9D5+1F3FE woman_with_headscarf_medium-dark_skin_tone
  U+1F9D5+1F3FC woman_with_headscarf_medium-light_skin_tone
  U+1F9D5+1F3FD woman_with_headscarf_medium_skin_tone U+1F469+200D+1F9AF woman_with_probing_cane
  U+1F9DF+200D+2640+FE0F woman_zombie U+1F462 woman’s_boot boot U+1F45A woman’s_clothes
  U+1F45A womans_clothes U+1F452 woman’s_hat womans_hat U+1F461 woman’s_sandal sandal
  U+1F46F+200D+2640+FE0F women_with_bunny_ears U+1F93C+200D+2640+FE0F women_wrestling
  U+1F6BA women’s_room womens U+1F974 woozy_face U+1F5FA world_map U+1F61F worried_face worried
  U+1F381 wrapped_gift gift U+1F527 wrench U+270D writing_hand
  U+270D+1F3FF writing_hand_dark_skin_tone U+270D+1F3FB writing_hand_light_skin_tone
  U+270D+1F3FE writing_hand_medium-dark_skin_tone U+270D+1F3FC writing_hand_medium-light_skin_tone
  U+270D+1F3FD writing_hand_medium_skin_tone U+1F9F6 yarn U+1F971 yawning_face
  U+1F7E1 yellow_circle U+1F49B yellow_heart U+1F7E8 yellow_square U+1F4B4 yen_banknote yen
  U+1FA80 yo-yo U+262F yin_yang U+1F92A zany_face U+1F993 zebra U+1F910 zipper-mouth_face
  U+1F910 zipper__mouth_face U+1F9DF zombie U+1F4A4 zzz U+1F1E6+1F1FD åland_islands
  U+1F1E6+1F1FD flag_for_åland_islands U+2A+20E3 keycap_asterisk U+38+20E3 keycap_digit_eight
  U+35+20E3 keycap_digit_five U+34+20E3 keycap_digit_four U+39+20E3 keycap_digit_nine
  U+31+20E3 keycap_digit_one U+37+20E3 keycap_digit_seven U+36+20E3 keycap_digit_six
  U+33+20E3 keycap_digit_three U+32+20E3 keycap_digit_two U+30+20E3 keycap_digit_zero
  U+23+20E3 keycap_number_sign U+1F3FB light_skin_tone emoji_modifier_fitzpatrick_type__1__2
  U+1F3FC medium_light_skin_tone emoji_modifier_fitzpatrick_type__3 U+1F3FD medium_skin_tone
  U+1F3FD emoji_modifier_fitzpatrick_type__4 U+1F3FE medium_dark_skin_tone
  U+1F3FE emoji_modifier_fitzpatrick_type__5 U+1F3FF dark_skin_tone
  U+1F3FF emoji_modifier_fitzpatrick_type__6 U+1F1E6 regional_indicator_symbol_letter_a
  U+1F1E6 regional_indicator_a U+1F1E7 regional_indicator_symbol_letter_b regional_indicator_b
  U+1F1E8 regional_indicator_symbol_letter_c regional_indicator_c
  U+1F1E9 regional_indicator_symbol_letter_d regional_indicator_d
  U+1F1EA regional_indicator_symbol_letter_e regional_indicator_e
  U+1F1EB regional_indicator_symbol_letter_f regional_indicator_f
  U+1F1EC regional_indicator_symbol_letter_g regional_indicator_g
  U+1F1ED regional_indicator_symbol_letter_h regional_indicator_h
  U+1F1EE regional_indicator_symbol_letter_i regional_indicator_i
  U+1F1EF regional_indicator_symbol_letter_j regional_indicator_j
  U+1F1F0 regional_indicator_symbol_letter_k regional_indicator_k
  U+1F1F1 regional_indicator_symbol_letter_l regional_indicator_l
  U+1F1F2 regional_indicator_symbol_letter_m regional_indicator_m
  U+1F1F3 regional_indicator_symbol_letter_n regional_indicator_n
  U+1F1F4 regional_indicator_symbol_letter_o regional_indicator_o
  U+1F1F5 regional_indicator_symbol_letter_p regional_indicator_p
  U+1F1F6 regional_indicator_symbol_letter_q regional_indicator_q
  U+1F1F7 regional_indicator_symbol_letter_r regional_indicator_r
  U+1F1F8 regional_indicator_symbol_letter_s regional_indicator_s
  U+1F1F9 regional_indicator_symbol_letter_t regional_indicator_t
  U+1F1FA regional_indicator_symbol_letter_u regional_indicator_u
  U+1F1FB regional_indicator_symbol_letter_v regional_indicator_v
  U+1F1FC regional_indicator_symbol_letter_w regional_indicator_w
  U+1F1FD regional_indicator_symbol_letter_x regional_indicator_x
  U+1F1FE regional_indicator_symbol_letter_y regional_indicator_y
  U+1F1FF regional_indicator_symbol_letter_z regional_indicator_z U+1F4C5 date U+1F408 cat2
  U+1F404 cow2 U+1F576 dark_sunglasses U+1F415 dog2 U+1F42A dromedary_camel
  U+1F3E4 european_post_office U+1F1EF+1F1F5 flag_for_japan U+1F1F9+1F1F7 flag_for_turkey
  U+2388 helm_symbol U+1F40E racehorse U+1F48F couplekiss U+1F401 mouse2 U+270F pencil2
  U+1F416 pig2 U+1F407 rabbit2 U+1F405 tiger2 U+1F686 train2 U+1F40B whale2"

end Daihon.Report
